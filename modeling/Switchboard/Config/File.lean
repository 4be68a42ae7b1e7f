import Switchboard.Config.Reader
import Switchboard.Error
import Switchboard.Yaml.Document

/-!
# Configuration files

A file is read as YAML when its name ends in `.yaml` or `.yml`, and as JSON otherwise. Where no file
is named, the first of four usual places that exists is read; where none exists, every setting has
its default.
-/

namespace Switchboard

/-- What is found at a path. -/
inductive FileState where
  | missing
  | directory
  /-- There is something, but it cannot be read. -/
  | unreadable (reason : String)
  | file (octets : ByteArray)

/-- Contents of the file system, as far as anybody looks. -/
abbrev Files := String → FileState

/-- The text at a path, or why there is none. -/
def FileState.text : FileState → Except String String
  | .missing => .error "No such file or directory (os error 2)"
  | .directory => .error "Is a directory (os error 21)"
  | .unreadable reason => .error reason
  | .file octets =>
    match String.fromUTF8? octets with
    | some text => .ok text
    | none => .error "stream did not contain valid UTF-8"

/-- The last component of a path; `.` components and slashes at the end do not count. -/
def fileName? (path : String) : Option (List Char) :=
  let components := (Text.splitAt '/' path.toList).filter fun c => !c.isEmpty && c ≠ ['.']
  match components.getLast? with
  | some ['.', '.'] => none
  | other => other

/-- What stands after the last dot of a file name; a dot in front of the name does not count. -/
def extension? (path : String) : Option (List Char) :=
  match fileName? path with
  | none => none
  | some name =>
    let reversed := (Text.splitAt '.' name).reverse
    match reversed with
    | last :: before :: more => if before.isEmpty && more.isEmpty then none else some last
    | _ => none

/-- Notations of configuration files. -/
inductive ConfigFormat where
  | json
  | yaml
  deriving Repr, DecidableEq

def ConfigFormat.name : ConfigFormat → String
  | .json => "JSON"
  | .yaml => "YAML"

/-- The notation of the file at a path. -/
def ConfigFormat.ofPath (path : String) : ConfigFormat :=
  match extension? path with
  | some e => if e = "yaml".toList || e = "yml".toList then .yaml else .json
  | none => .json

namespace Config

/-- Reads a text in a notation. -/
def parse? : ConfigFormat → String → Option Config
  | .json, text => readJson? text
  | .yaml, text => (Yaml.read? text).bind read?

/-- Loads the file at a path. -/
def load (files : Files) (path : String) : Except Error Config :=
  match (files path).text with
  | .error reason => .error (.config ("failed to read config from " ++ path ++ ": " ++ reason))
  | .ok text =>
    let form := ConfigFormat.ofPath path
    match parse? form text with
    | some c => .ok c
    | none => .error (.config (path ++ ": invalid " ++ form.name ++ ": the text is no configuration"))

/-- Where configuration is looked for, in this order. -/
def usualPaths : List String :=
  ["/etc/opsbridge/config.yaml", "/etc/opsbridge/config.json", "opsbridge.yaml", "opsbridge.json"]

/-- Loads the first file that exists in the usual places. -/
def loadUsual (files : Files) : Except Error Config :=
  let isThere (path : String) : Bool := match files path with
    | .missing => false
    | _ => true
  match usualPaths.find? isThere with
  | some path => load files path
  | none => .ok {}

end Config

end Switchboard
