import Switchboard.Decimal
import Switchboard.NameMap
import Switchboard.Text.Blank

/-!
# JSON values

The free values that tools take and give. Whole numbers and 64-bit floats are kept apart (`1` and
`1.0` differ), and the members of an object are listed in order: by ascending name in values that
were read, in the order of declaration in values that are built for printing.
-/

namespace Switchboard

/-- A JSON number. Whole numbers run from `-2 ^ 63` to `2 ^ 64 - 1` when they were read. -/
inductive JsonNumber where
  | int (value : Int)
  | float (value : Float)
  deriving Repr

/-- A JSON value. -/
inductive Json where
  | null
  | bool (value : Bool)
  | number (value : JsonNumber)
  | string (value : String)
  | array (items : List Json)
  | object (members : List (String × Json))
  deriving Repr

namespace Json

instance : Inhabited Json := ⟨.null⟩

/-- A whole number. -/
def ofNat (n : Nat) : Json := .number (.int n)

/-- The object of a map, sorted by name. -/
def ofMap {α : Type} (f : α → Json) (m : NameMap α) : Json :=
  .object (m.entries.map fun e => (e.1, f e.2))

/-- A list of texts. -/
def ofTexts (texts : List String) : Json :=
  .array (texts.map .string)

/-- A text, or `null` where there is none. -/
def ofText? : Option String → Json
  | some s => .string s
  | none => .null

mutual

/-- The same value with the members of every object by ascending name, the way values are passed
around. -/
def sorted : Json → Json
  | .array items => .array (sortedItems items)
  | .object members => .object (sortedMembers members)
  | v => v

def sortedItems : List Json → List Json
  | [] => []
  | v :: vs => v.sorted :: sortedItems vs

def sortedMembers : List (String × Json) → List (String × Json)
  | [] => []
  | (name, v) :: ms => Assoc.put name v.sorted (sortedMembers ms)

end

/-! ## Looking inside -/

/-- A member of an object; other values have none. -/
def get? (name : String) : Json → Option Json
  | .object members => Assoc.find? name members
  | _ => none

def asString? : Json → Option String
  | .string s => some s
  | _ => none

def asBool? : Json → Option Bool
  | .bool b => some b
  | _ => none

/-- An unsigned whole number; floats are none, whatever their value. -/
def asNat? : Json → Option Nat
  | .number (.int n) => if 0 ≤ n then some n.toNat else none
  | _ => none

/-- The float nearest to a number. -/
def asFloat? : Json → Option Float
  | .number (.int n) => some (if n < 0 then -Float.ofNat n.natAbs else Float.ofNat n.toNat)
  | .number (.float f) => some f
  | _ => none

/-- What kind of value this is, in words. -/
def kindName : Json → String
  | .null => "null"
  | .bool _ => "boolean"
  | .number _ => "number"
  | .string _ => "string"
  | .array _ => "array"
  | .object _ => "object"

/-! ## Pointers -/

/-- Undoes the escapes of one pointer segment: first every `~1`, then every `~0`. -/
def unescapeSegment (cs : List Char) : List Char :=
  unescape '0' '~' (unescape '1' '/' cs)
where
  unescape (mark plain : Char) : List Char → List Char
    | '~' :: c :: rest =>
      if c = mark then plain :: unescape mark plain rest else '~' :: unescape mark plain (c :: rest)
    | c :: rest => c :: unescape mark plain rest
    | [] => []

/-- An array position: a numeral without sign and without a leading zero. -/
def position? (cs : List Char) : Option Nat :=
  match cs with
  | '+' :: _ => none
  | '0' :: _ :: _ => none
  | _ => Decimal.readWord? cs

private def descend (v : Json) (segment : List Char) : Option Json :=
  match v with
  | .object members => Assoc.find? (String.ofList segment) members
  | .array items => (position? segment).bind (items[·]?)
  | _ => none

/-- The value that a JSON pointer leads to. The empty pointer leads to the value itself; every
other pointer starts with `/`. -/
def pointer? (v : Json) (pointer : String) : Option Json :=
  match pointer.toList with
  | [] => some v
  | '/' :: rest =>
    ((Text.splitAt '/' rest).map unescapeSegment).foldl (fun v? seg => v?.bind (descend · seg))
      (some v)
  | _ => none

end Json

end Switchboard
