import Switchboard.NameMap

/-!
# Header fields

Names of header fields are kept in lower case, because their case does not count. Which texts can
be names and values is decided here.
-/

namespace Switchboard.Http

/-- Header fields by their names in lower case. -/
abbrev Headers := NameMap String

/-- Characters that a name is made of. -/
def isNameChar (c : Char) : Bool :=
  c.isAlphanum || "!#$%&'*+-.^_`|~".toList.contains c

/-- Names are no longer than this. -/
def maxNameLength : Nat := 65535

/-- The name that a text stands for. -/
def headerName? (name : String) : Option String :=
  let cs := name.toList
  if cs.isEmpty || !cs.all isNameChar || decide (maxNameLength < cs.length) then none
  else some (String.ofList (cs.map Char.toLower))

/-- Characters that a value is made of: no control character but the tab. -/
def isValueChar (c : Char) : Bool :=
  c = '\t' || (0x20 ≤ c.toNat && c.toNat ≠ 0x7F)

/-- Whether a text can be a value. -/
def isHeaderValue (value : String) : Bool :=
  value.toList.all isValueChar

end Switchboard.Http
