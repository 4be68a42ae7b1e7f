import Switchboard.Form
import Switchboard.Url.Host

/-!
# Addresses

An address by its parts. All parts are kept in their encoded form, so the text of an address is
only a matter of putting the separators back.
-/

namespace Switchboard

/-- Who asks whom: the part after the double slash. -/
structure Authority where
  username : String
  /-- Not empty. -/
  password : Option String
  host : Host
  /-- Absent where it is the usual one of the scheme. -/
  port : Option UInt16
  deriving Repr, DecidableEq

/-- The authority without user name and password. -/
def Authority.withoutUser (a : Authority) : Authority := { a with username := "", password := none }

/-- The path of an address. -/
inductive UrlPath where
  /-- Segments, each with a slash in front. -/
  | segments (parts : List String)
  /-- A text without inner structure. -/
  | opaqueText (text : String)
  deriving Repr, DecidableEq

/-- An absolute address. -/
structure Url where
  scheme : String
  authority : Option Authority
  path : UrlPath
  query : Option String
  fragment : Option String
  deriving Repr, DecidableEq

namespace Url

/-- What a scheme means for the rest of an address. -/
inductive SchemeKind where
  /-- Local files. -/
  | file
  /-- Has a host, and a usual port. -/
  | network (port : UInt16)
  | other
  deriving Repr, DecidableEq

/-- The kind of a scheme. -/
def SchemeKind.of (scheme : String) : SchemeKind :=
  match scheme with
  | "http" | "ws" => .network 80
  | "https" | "wss" => .network 443
  | "ftp" => .network 21
  | "file" => .file
  | _ => .other

/-- Whether addresses of this kind always have a path, and take a backslash for a slash. -/
def SchemeKind.isSpecial : SchemeKind → Bool
  | .other => false
  | _ => true

/-- The port that needs no mention. -/
def SchemeKind.usualPort? : SchemeKind → Option UInt16
  | .network port => some port
  | _ => none

/-! ## Text -/

/-- User name and password as they stand in front of the host. -/
def credentialsText (a : Authority) : String :=
  match a.password with
  | some password => a.username ++ ":" ++ password ++ "@"
  | none => if a.username = "" then "" else a.username ++ "@"

/-- The part from the user name to the port. -/
def authorityText (a : Authority) : String :=
  credentialsText a ++ a.host.text ++
    match a.port with
    | some port => ":" ++ toString port.toNat
    | none => ""

/-- The text of a path. -/
def pathText : UrlPath → String
  | .segments parts => String.join (parts.map ("/" ++ ·))
  | .opaqueText text => text

/-- What stands between the scheme and the path. A path that starts with two slashes is kept apart
from an authority by `/.`. -/
def leadText (u : Url) : String :=
  match u.authority, u.path with
  | some a, _ => "//" ++ authorityText a
  | none, .segments ("" :: _ :: _) => "/."
  | none, _ => ""

/-- The query with its question mark. -/
def queryText : Option String → String
  | some query => "?" ++ query
  | none => ""

/-- The address up to its query. -/
def stem (u : Url) : String :=
  u.scheme ++ ":" ++ leadText u ++ pathText u.path

/-- The text of an address. -/
def text (u : Url) : String :=
  stem u ++ queryText u.query ++
    match u.fragment with
    | some fragment => "#" ++ fragment
    | none => ""

/-- Whether the address names a machine. -/
def hasHost (u : Url) : Bool :=
  match u.authority with
  | some a => a.host ≠ .domain ""
  | none => false

/-- The address without user name and password. -/
def withoutUser (u : Url) : Url := { u with authority := u.authority.map (·.withoutUser) }

/-- The port that is used, mentioned or not. -/
def effectivePort? (u : Url) : Option UInt16 :=
  match u.authority.bind (·.port) with
  | some port => some port
  | none => (SchemeKind.of u.scheme).usualPort?

/-- The address with a slash at the end of its path. -/
def asDirectory (u : Url) : Url :=
  match u.path with
  | .segments parts =>
    if parts.getLast? = some "" then u else { u with path := .segments (parts ++ [""]) }
  | .opaqueText _ => u

/-- Adds pairs to the query; an empty query is none. -/
def addPairs (u : Url) (pairs : List (String × String)) : Url :=
  let query := Form.append ((u.query.getD "").toList) pairs
  { u with query := if query.isEmpty then none else some (String.ofList query) }

end Url

end Switchboard
