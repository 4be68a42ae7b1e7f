import Switchboard.Url.Basic

/-!
# Reading addresses

An address from a text, alone or relative to another address. A text is read part by part from the
left; each reader takes the characters that are left and gives back those that follow its part.

Main definitions: `Url.parse` and `Url.join`.
-/

namespace Switchboard.Url

/-! ## Characters that do not count -/

/-- Whether a character at the edge of a text does not count. -/
def isEdge (c : Char) : Bool := c.toNat ≤ 0x20

/-- A text without control characters and spaces around it, and without tabs and line breaks. -/
def cleaned (cs : List Char) : List Char :=
  (((cs.dropWhile isEdge).reverse.dropWhile isEdge).reverse).filter
    fun c => !(c = '\t' || c = '\n' || c = '\r')

/-! ## Scheme -/

/-- Whether a character may stand in a scheme. -/
def isSchemeChar (c : Char) : Bool :=
  c.isAlphanum || c = '+' || c = '-' || c = '.'

/-- Splits off a scheme, in lower case. -/
def splitScheme? (cs : List Char) : Option (String × List Char) :=
  match cs.span isSchemeChar with
  | (c :: more, ':' :: rest) =>
    if c.isAlpha then some (String.ofList ((c :: more).map Char.toLower), rest) else none
  | _ => none

/-! ## Query and fragment -/

/-- Reads what follows the path. -/
def readTail (kind : SchemeKind) (cs : List Char) : Option String × Option String :=
  let (queryPart, fragmentPart) := cs.span (· ≠ '#')
  let query := match queryPart with
    | '?' :: query =>
      let keep := if kind.isSpecial then Percent.inSpecialQuery else Percent.inQuery
      some (String.ofList (Percent.encode keep query))
    | _ => none
  let fragment := match fragmentPart with
    | '#' :: fragment => some (String.ofList (Percent.encode Percent.inFragment fragment))
    | _ => none
  (query, fragment)

/-- Whether a character ends the path. -/
def endsPath (c : Char) : Bool := c = '?' || c = '#'

/-! ## Path -/

/-- Whether a character counts as a slash. -/
def isSlash (kind : SchemeKind) (c : Char) : Bool :=
  c = '/' || (kind.isSpecial && c = '\\')

/-- Cuts at every slash. -/
def cutSegments (kind : SchemeKind) (cs : List Char) : List (List Char) :=
  cs.splitOnP (isSlash kind)

/-- A segment that stands for the place itself. -/
def isSingleDot (cs : List Char) : Bool :=
  match cs with
  | ['.'] => true
  | ['%', '2', e] => e = 'e' || e = 'E'
  | _ => false

/-- A segment that leads one level up. -/
def isDoubleDot (cs : List Char) : Bool :=
  match cs with
  | '.' :: rest => isSingleDot rest
  | '%' :: '2' :: e :: rest => (e = 'e' || e = 'E') && isSingleDot rest
  | _ => false

/-- The letter of a drive with its mark. -/
def isDrive (cs : List Char) : Bool :=
  match cs with
  | [letter, mark] => letter.isAlpha && (mark = ':' || mark = '|')
  | _ => false

/-- The path one level up; it does not leave a drive. -/
def parent (parts : List String) : List String :=
  match parts.getLast? with
  | some last => if isDrive last.toList then parts else parts.dropLast
  | none => []

/-- A segment in its encoded form; the first one of a file may be a drive. -/
def segmentText (kind : SchemeKind) (parts : List String) (cs : List Char) : String :=
  match kind, parts, cs with
  | .file, [], [letter, mark] =>
    if isDrive [letter, mark] then String.ofList [letter, ':']
    else String.ofList (Percent.encode Percent.inPath cs)
  | _, _, _ => String.ofList (Percent.encode Percent.inPath cs)

/-- Follows segments from a place. A dot segment at the end leaves a slash there. -/
def follow (kind : SchemeKind) (parts : List String) : List (List Char) → List String
  | [] => parts
  | [last] =>
    if isDoubleDot last then parent parts ++ [""]
    else if isSingleDot last then parts ++ [""]
    else parts ++ [segmentText kind parts last]
  | cs :: rest =>
    if isDoubleDot cs then follow kind (parent parts) rest
    else if isSingleDot cs then follow kind parts rest
    else follow kind (parts ++ [segmentText kind parts cs]) rest

/-- Reads a path from a place, and what follows it. The text has no slash in front. -/
def readPath (kind : SchemeKind) (start : List String) (cs : List Char) : List String × List Char :=
  let (path, rest) := cs.span (!endsPath ·)
  (follow kind start (cutSegments kind path), rest)

/-- Reads the path that follows an authority. -/
def readFullPath (kind : SchemeKind) (cs : List Char) : List String × List Char :=
  match cs with
  | [] => if kind.isSpecial then ([""], []) else ([], [])
  | c :: rest =>
    if isSlash kind c then readPath kind [] rest
    else if !kind.isSpecial && endsPath c then ([], cs)
    else readPath kind [] cs

/-! ## Authority -/

/-- Splits at the last `@`. -/
def splitUser? (cs : List Char) : Option (List Char × List Char) :=
  match cs with
  | [] => none
  | c :: rest =>
    match splitUser? rest with
    | some (user, host) => some (c :: user, host)
    | none => if c = '@' then some ([], rest) else none

/-- User name and password; an empty password is none. -/
def readUser (cs : List Char) : String × Option String :=
  let encode (cs : List Char) : String := String.ofList (Percent.encode Percent.inUser cs)
  match cs.span (· ≠ ':') with
  | (name, ':' :: word) => (encode name, if word.isEmpty then none else some (encode word))
  | (name, _) => (encode name, none)

/-- Splits at the first colon outside brackets. -/
def splitPort (inBrackets : Bool) : List Char → List Char × List Char
  | [] => ([], [])
  | c :: rest =>
    if c = ':' && !inBrackets then ([], c :: rest)
    else
      let inside := if c = '[' then true else if c = ']' then false else inBrackets
      let (host, port) := splitPort inside rest
      (c :: host, port)

/-- Reads the digits of a port. -/
def readPort (kind : SchemeKind) (digits : List Char) : Except UrlError (Option UInt16) :=
  let n := Nat.ofDigitChars 10 digits 0
  if 65535 < n then .error .port
  else if digits.isEmpty || kind.usualPort? = some n.toUInt16 then .ok none
  else .ok (some n.toUInt16)

/-- Reads the host of an authority. -/
def readHost (kind : SchemeKind) (cs : List Char) : Except UrlError Host :=
  if kind.isSpecial then
    if cs.isEmpty then .error .emptyHost else Host.read cs
  else Host.readOpaque cs

/-- Reads the part after a double slash, and what follows it. -/
def readAuthority (kind : SchemeKind) (cs : List Char) :
    Except UrlError (Authority × List Char) := do
  let ends (c : Char) : Bool := isSlash kind c || endsPath c
  let (part, rest) := cs.span (!ends ·)
  let (user, hostPart) := (splitUser? part).getD ([], part)
  let hasUser := (splitUser? part).isSome
  if hasUser && user.isEmpty && hostPart.isEmpty && !rest.isEmpty then throw .emptyHost
  let (name, password) := readUser user
  let (hostText, portText) := splitPort false hostPart
  let host ← readHost kind hostText
  if hostText.isEmpty && !portText.isEmpty then throw .emptyHost
  let (digits, after) := (portText.drop 1).span Char.isDigit
  let port ← readPort kind digits
  unless after.isEmpty || after.head? = some '\\' do throw .port
  if hostText.isEmpty && (name ≠ "" || password.isSome) then throw .emptyHost
  pure (⟨name, password, host, port⟩, after ++ rest)

/-- Reads an address from behind the double slash. -/
def readFromAuthority (scheme : String) (cs : List Char) : Except UrlError Url := do
  let kind := SchemeKind.of scheme
  let (authority, rest) ← readAuthority kind cs
  let (parts, rest) := readFullPath kind rest
  let (query, fragment) := readTail kind rest
  pure ⟨scheme, some authority, .segments parts, query, fragment⟩

/-! ## Whole addresses -/

/-- The address of a local file with a host. -/
def localFile (host : Host) (parts : List String) (rest : List Char) : Url :=
  let (query, fragment) := readTail .file rest
  -- empty segments in front do not count
  let parts := match parts.dropWhile (· = "") with
    | [] => [""]
    | parts => parts
  ⟨"file", some ⟨"", none, host, none⟩, .segments parts, query, fragment⟩

/-- Reads the path of a local file, from its first segment that is not empty. -/
def readLocalFile (host : Host) (cs : List Char) : Url :=
  let (parts, rest) := readPath .file [] (cs.dropWhile (isSlash .file))
  let startsWithDrive := match parts with
    | first :: _ => isDrive first.toList
    | [] => false
  localFile (if startsWithDrive then .domain "" else host) parts rest

/-- Reads the address of a local file, after the colon. A drive needs no host, and neither does the
machine itself. -/
def readFile (cs : List Char) : Except UrlError Url :=
  match cs with
  | c :: d :: rest =>
    if isSlash .file c && isSlash .file d then
      let (name, after) := rest.span fun c => !(isSlash .file c || endsPath c)
      if name.isEmpty || isDrive name then .ok (readLocalFile (.domain "") rest)
      else do
        let host ← Host.read name
        pure (readLocalFile (if host = .domain "localhost" then .domain "" else host) after)
    else .ok (readLocalFile (.domain "") cs)
  | _ => .ok (readLocalFile (.domain "") cs)

/-- Reads an address of a scheme with no fixed form, after the colon. -/
def readOther (scheme : String) (cs : List Char) : Except UrlError Url :=
  match cs with
  | '/' :: '/' :: rest => readFromAuthority scheme rest
  | '/' :: rest =>
    let (parts, rest) := readPath .other [] rest
    let (query, fragment) := readTail .other rest
    .ok ⟨scheme, none, .segments parts, query, fragment⟩
  | _ =>
    let (path, rest) := cs.span (!endsPath ·)
    let (query, fragment) := readTail .other rest
    .ok ⟨scheme, none, .opaqueText (String.ofList (Percent.encode Percent.plain path)), query,
      fragment⟩

/-- Reads an address after its scheme and the colon. However many slashes follow the scheme of a
network address, the authority starts behind them. -/
def readWithScheme (scheme : String) (cs : List Char) : Except UrlError Url :=
  match SchemeKind.of scheme with
  | .file => readFile cs
  | .network port => readFromAuthority scheme (cs.dropWhile (isSlash (.network port)))
  | .other => readOther scheme cs

/-- Reads an absolute address. -/
def parse (text : String) : Except UrlError Url :=
  let cs := cleaned text.toList
  match splitScheme? cs with
  | some (scheme, rest) => readWithScheme scheme rest
  | none => .error .relative

/-- The segments of a path. -/
def segments (u : Url) : List String :=
  match u.path with
  | .segments parts => parts
  | .opaqueText _ => []

/-- Reads a text without scheme, or with that of the base, relative to a network address. -/
def readRelative (base : Url) (cs : List Char) : Except UrlError Url :=
  let kind := SchemeKind.of base.scheme
  let readFrom (start : List String) (cs : List Char) : Url :=
    let (parts, rest) := readPath kind start cs
    let (query, fragment) := readTail kind rest
    { base with path := .segments parts, query := query, fragment := fragment }
  match cs with
  | [] => .ok { base with fragment := none }
  | '?' :: _ =>
    let (query, fragment) := readTail kind cs
    .ok { base with query := query, fragment := fragment }
  | '#' :: _ => .ok { base with fragment := (readTail kind cs).2 }
  | '/' :: '/' :: rest => readFromAuthority base.scheme rest
  | c :: rest =>
    if isSlash kind c then
      if (rest.head?.map (isSlash kind)).getD false then
        readFromAuthority base.scheme (rest.dropWhile (isSlash kind))
      else .ok (readFrom [] rest)
    else .ok (readFrom base.segments.dropLast cs)

/-- Reads a text relative to a network address. An absolute text of the same scheme is relative all
the same if no two slashes follow its scheme. -/
def join (base : Url) (text : String) : Except UrlError Url :=
  let cs := cleaned text.toList
  match splitScheme? cs with
  | some (scheme, rest) =>
    let slashes := (rest.takeWhile (isSlash (SchemeKind.of scheme))).length
    if scheme = base.scheme && decide (slashes < 2) then readRelative base rest
    else readWithScheme scheme rest
  | none => readRelative base cs

end Switchboard.Url
