import Switchboard.Binary64.Shortest
import Switchboard.Json.Basic

/-!
# The text of JSON values

Two layouts: compact, on one line, and indented by two spaces. Neither writes a raw control
character inside a quoted text, so a compact text never holds a line break.

Floats are written with the fewest digits that read back (`Binary64.shortest`). `floatForm` says
where positional notation ends; a float without a fraction keeps a `.0`, so it stays a float.
-/

namespace Switchboard.Json

/-! ## Numbers -/

/-- How decimals are laid out. -/
structure FloatForm where
  /-- Positional for values of at least `10 ^ (least - 1)`. -/
  least : Int
  /-- Positional for values below `10 ^ most`. -/
  most : Int
  deriving Repr, DecidableEq

/-- From `0.00001` up to below `1e+16` floats are written positionally, all others with an exponent
that always has a sign. -/
def floatForm : FloatForm := ⟨-4, 16⟩

def zeros (n : Int) : List Char := List.replicate n.toNat '0'

/-- Lays out `0.d₁d₂… · 10 ^ point`. -/
def FloatForm.layout (form : FloatForm) (digits : List Char) (point : Int) : List Char :=
  let count : Int := digits.length
  if form.least ≤ point && decide (point ≤ form.most) then
    if point ≤ 0 then '0' :: '.' :: zeros (-point) ++ digits
    else if point < count then digits.take point.toNat ++ '.' :: digits.drop point.toNat
    else digits ++ zeros (point - count) ++ ['.', '0']
  else
    let e := point - 1
    let mantissa := match digits with
      | [d] => [d]
      | d :: ds => d :: '.' :: ds
      | [] => []
    mantissa ++ 'e' :: (if e < 0 then '-' else '+') :: Decimal.write e.natAbs

/-- The text of a finite float. -/
def floatText (f : Float) : List Char :=
  let magnitude := match Binary64.magnitude? f with
    | none => ['0', '.', '0']
    | some m =>
      let (d, e) := Binary64.shortest m
      let ds := Decimal.write d
      floatForm.layout ds (ds.length + e)
  if Binary64.isNegative f then '-' :: magnitude else magnitude

def intText : Int → List Char
  | .ofNat n => Decimal.write n
  | .negSucc n => '-' :: Decimal.write (n + 1)

end Switchboard.Json

namespace Switchboard

def JsonNumber.text : JsonNumber → List Char
  | .int n => Json.intText n
  | .float f => Json.floatText f

end Switchboard

namespace Switchboard.Json

/-! ## Quoted texts -/

def hexDigit (n : Nat) : Char :=
  if n < 10 then Char.ofNat (48 + n) else Char.ofNat (87 + n)

/-- How a character is written between quotes. -/
def escape (c : Char) : List Char :=
  if c = '"' then ['\\', '"']
  else if c = '\\' then ['\\', '\\']
  else if c = '\n' then ['\\', 'n']
  else if c = '\r' then ['\\', 'r']
  else if c = '\t' then ['\\', 't']
  else if c = '\x08' then ['\\', 'b']
  else if c = '\x0c' then ['\\', 'f']
  else if c.toNat < 0x20 then
    ['\\', 'u', '0', '0', hexDigit (c.toNat / 16), hexDigit (c.toNat % 16)]
  else [c]

/-- A text between quotes. -/
def quote (s : String) : List Char :=
  '"' :: s.toList.flatMap escape ++ ['"']

/-! ## Layouts -/

mutual

/-- The text of a value on one line. -/
def compact : Json → List Char
  | .null => "null".toList
  | .bool b => (if b then "true" else "false").toList
  | .number n => n.text
  | .string s => quote s
  | .array items => '[' :: compactItems items
  | .object members => '{' :: compactMembers members

def compactItems : List Json → List Char
  | [] => [']']
  | [v] => compact v ++ [']']
  | v :: vs => compact v ++ ',' :: compactItems vs

def compactMembers : List (String × Json) → List Char
  | [] => ['}']
  | [(name, v)] => quote name ++ ':' :: compact v ++ ['}']
  | (name, v) :: ms => quote name ++ ':' :: compact v ++ ',' :: compactMembers ms

end

/-- A line break and the indentation of a level. -/
def newLine (level : Nat) : List Char :=
  '\n' :: List.replicate (2 * level) ' '

mutual

/-- The text of a value with one item or member to a line, standing at a level of nesting. -/
def indented (level : Nat) : Json → List Char
  | .null => "null".toList
  | .bool b => (if b then "true" else "false").toList
  | .number n => n.text
  | .string s => quote s
  | .array [] => ['[', ']']
  | .array (v :: vs) => '[' :: indentedItems level (v :: vs)
  | .object [] => ['{', '}']
  | .object (m :: ms) => '{' :: indentedMembers level (m :: ms)

def indentedItems (level : Nat) : List Json → List Char
  | [] => newLine level ++ [']']
  | [v] => newLine (level + 1) ++ indented (level + 1) v ++ newLine level ++ [']']
  | v :: vs => newLine (level + 1) ++ indented (level + 1) v ++ ',' :: indentedItems level vs

def indentedMembers (level : Nat) : List (String × Json) → List Char
  | [] => newLine level ++ ['}']
  | [(name, v)] =>
    newLine (level + 1) ++ quote name ++ ':' :: ' ' :: indented (level + 1) v ++
      newLine level ++ ['}']
  | (name, v) :: ms =>
    newLine (level + 1) ++ quote name ++ ':' :: ' ' :: indented (level + 1) v ++
      ',' :: indentedMembers level ms

end

/-- A value on one line. -/
def toText (v : Json) : String := String.ofList v.compact

/-- A value over several lines. -/
def toPrettyText (v : Json) : String := String.ofList (v.indented 0)

end Switchboard.Json
