import Switchboard.Backend.Headers
import Switchboard.Http.Exchange
import Switchboard.Http.Status
import Switchboard.Json.Written
import Switchboard.Url.Reader

/-!
# Backends

A backend is a base address and the header fields that go with every request. Paths are read
relative to the base, which ends with a slash so that none of it is lost. A document counts only if
the backend reports success and sends JSON, which is UTF-8 whatever charset is declared; the charset
matters for the text that an error repeats.

Main definitions: `Backend.connect`, `Backend.request` and `Backend.document`.
-/

namespace Switchboard

/-- A backend that can be asked for documents. -/
structure Backend where
  service : String
  base : Url
  headers : Http.Headers
  deriving Repr, DecidableEq

namespace Backend

/-- Most characters of an answer that an error repeats. -/
def maxErrorBody : Nat := 512

/-- Reads a base address. -/
def readBase (raw : String) : Except ConnectError Url :=
  match Url.parse (Text.trimmed raw) with
  | .error e => .error (.url e)
  | .ok u =>
    if u.scheme = "http" || u.scheme = "https" then .ok u.asDirectory
    else .error (.scheme u.scheme)

/-- A backend from its settings. Nobody is asked yet. -/
def connect (service : String) (settings : Option BackendConfig) : Except ConnectError Backend := do
  let some c := settings | throw .noSettings
  let some raw := c.url | throw .noUrl
  let base ← readBase raw
  let headers ← c.requestHeaders
  pure ⟨service, base, headers⟩

/-- The address of a path. Slashes in front of the path do not count. -/
def url (b : Backend) (path : String) : Except Failure Url :=
  match b.base.join (String.ofList (path.toList.dropWhile (· = '/'))) with
  | .ok u => .ok u
  | .error e => .error ((Failure.of e.message).within ("invalid path '" ++ path ++ "'"))

/-- The field for the user name and password inside an address, if there are any. -/
def addressCredentials? (u : Url) : Option String := do
  let authority ← u.authority
  let decoded (s : String) : Option String :=
    (Text.Utf8.decode? (Percent.decode s.toList)).map String.ofList
  let username ← decoded authority.username
  let password := authority.password.bind decoded
  if username = "" && password.isNone then none else some (basicValue username (password.getD ""))

/-- The request for an address, with further pairs in its query. Credentials inside the address are
taken out of it and win over the configured ones. -/
def requestTo (b : Backend) (u : Url) (pairs : List (String × String)) : Http.Request :=
  match addressCredentials? u with
  | some value => ⟨u.withoutUser.addPairs pairs, b.headers.insert "authorization" value⟩
  | none => ⟨u.addPairs pairs, b.headers⟩

/-- The address and the request for a path. Not every request is sent: the client may refuse the
address (`Http.Request.refusal?`). -/
def request (b : Backend) (path : String) (pairs : List (String × String)) :
    Except Failure (Url × Http.Request) :=
  (b.url path).map fun u => (u, b.requestTo u pairs)

/-- The document in a reply to the request for an address. -/
def document (b : Backend) (u : Url) : Http.Reply → Except Failure Json
  | .refused reason =>
    .error ((Failure.of reason).within (b.service ++ " request to " ++ u.text ++ " failed"))
  | .received status charset body =>
    if Http.isSuccess status then
      match (Text.Utf8.decode? body).bind Json.read? with
      | some v => .ok v
      | none =>
        .error ((Failure.of "the body is no JSON text").within
          (b.service ++ " returned a non-JSON body"))
    else
      let shown := String.ofList ((Text.decodeMarked charset body).take maxErrorBody)
      .error (.of (b.service ++ " returned " ++ Http.statusText status ++ ": " ++ shown))

end Backend

end Switchboard
