import Switchboard.Json.Basic

/-!
# JSON as written

A JSON text read no further than its grammar asks: numbers still have their digits, escapes of
surrogates are not yet paired, repeated member names are all there, and nesting is unbounded. A
part of a text that nobody looks at need not make more sense than that.

`Written.value?` is the second step, from a text to a value. It refuses lone surrogates, numbers
beyond the floats, and nesting deeper than the room that is left; of a repeated name the last
member stays.
-/

namespace Switchboard.Json

/-- A number by its parts. -/
structure Numeral where
  negative : Bool
  /-- Digits before the point, without a leading zero unless there is only one digit. -/
  whole : List Char
  /-- Digits after the point, at least one. -/
  fraction : Option (List Char)
  /-- Whether the exponent is negative, and its digits. -/
  exponent : Option (Bool × List Char)
  deriving Repr, DecidableEq

/-- One element of a quoted text: a character, or a `\u` escape of a UTF-16 unit. -/
inductive Glyph where
  | char (c : Char)
  | unit (u : Nat)
  deriving Repr, DecidableEq

/-- A JSON text by its grammar. -/
inductive Written where
  | null
  | bool (value : Bool)
  | number (value : Numeral)
  | string (value : List Glyph)
  | array (items : List Written)
  | object (members : List (List Glyph × Written))
  deriving Repr

/-- Deepest nesting of arrays and objects in a text that is read as a whole. -/
def maxNesting : Nat := 127

/-! ## Reading -/

/-- White space of the JSON grammar. -/
def isSpace (c : Char) : Bool :=
  c = ' ' || c = '\n' || c = '\t' || c = '\r'

def skipSpace (cs : List Char) : List Char :=
  cs.dropWhile isSpace

def hexValue? (c : Char) : Option Nat :=
  let n := c.toNat
  if 48 ≤ n && n ≤ 57 then some (n - 48)
  else if 97 ≤ n && n ≤ 102 then some (n - 87)
  else if 65 ≤ n && n ≤ 70 then some (n - 55)
  else none

/-- The escapes of one letter. -/
def escaped? : Char → Option Char
  | '"' => some '"'
  | '\\' => some '\\'
  | '/' => some '/'
  | 'b' => some '\x08'
  | 'f' => some '\x0c'
  | 'n' => some '\n'
  | 'r' => some '\r'
  | 't' => some '\t'
  | _ => none

/-- Reads the rest of a quoted text, after the opening quote, through the closing one. -/
def readQuoted? : List Char → Option (List Glyph × List Char)
  | '"' :: rest => some ([], rest)
  | '\\' :: 'u' :: a :: b :: c :: d :: rest => do
    let w ← hexValue? a
    let x ← hexValue? b
    let y ← hexValue? c
    let z ← hexValue? d
    let (glyphs, rest) ← readQuoted? rest
    some (.unit (w * 4096 + x * 256 + y * 16 + z) :: glyphs, rest)
  | '\\' :: e :: rest => do
    let c ← escaped? e
    let (glyphs, rest) ← readQuoted? rest
    some (.char c :: glyphs, rest)
  | c :: rest =>
    if c = '\\' || c.toNat < 0x20 then none
    else (readQuoted? rest).map fun (glyphs, rest) => (.char c :: glyphs, rest)
  | [] => none

/-- Splits off the digits in front. -/
def digits (cs : List Char) : List Char × List Char :=
  (cs.takeWhile Char.isDigit, cs.dropWhile Char.isDigit)

/-- Reads the fraction of a number, if one follows. -/
def readFraction? (cs : List Char) : Option (Option (List Char) × List Char) :=
  match cs with
  | '.' :: rest =>
    match digits rest with
    | ([], _) => none
    | (ds, rest) => some (some ds, rest)
  | _ => some (none, cs)

/-- Reads the exponent of a number, if one follows. -/
def readExponent? (cs : List Char) : Option (Option (Bool × List Char) × List Char) :=
  match cs with
  | c :: rest =>
    if c = 'e' || c = 'E' then
      let (negative, rest) := match rest with
        | '+' :: rest => (false, rest)
        | '-' :: rest => (true, rest)
        | rest => (false, rest)
      match digits rest with
      | ([], _) => none
      | (ds, rest) => some (some (negative, ds), rest)
    else some (none, cs)
  | [] => some (none, cs)

/-- Reads a number. -/
def readNumeral? (cs : List Char) : Option (Numeral × List Char) := do
  let (negative, cs) := match cs with
    | '-' :: rest => (true, rest)
    | cs => (false, cs)
  let (whole, cs) ← match digits cs with
    | ([], _) => none
    | ('0' :: _ :: _, _) => none
    | (ds, rest) => some (ds, rest)
  let (fraction, cs) ← readFraction? cs
  let (exponent, cs) ← readExponent? cs
  some (⟨negative, whole, fraction, exponent⟩, cs)

mutual

/-- Reads one value; the fuel bounds the number of steps and any fuel above the length of the text
is enough. -/
def readValue? : Nat → List Char → Option (Written × List Char)
  | 0, _ => none
  | fuel + 1, cs =>
    match skipSpace cs with
    | '{' :: rest =>
      match skipSpace rest with
      | '}' :: rest => some (.object [], rest)
      | rest => (readMembers? fuel rest).map fun (ms, rest) => (.object ms, rest)
    | '[' :: rest =>
      match skipSpace rest with
      | ']' :: rest => some (.array [], rest)
      | rest => (readItems? fuel rest).map fun (vs, rest) => (.array vs, rest)
    | '"' :: rest => (readQuoted? rest).map fun (gs, rest) => (.string gs, rest)
    | 'n' :: 'u' :: 'l' :: 'l' :: rest => some (.null, rest)
    | 't' :: 'r' :: 'u' :: 'e' :: rest => some (.bool true, rest)
    | 'f' :: 'a' :: 'l' :: 's' :: 'e' :: rest => some (.bool false, rest)
    | cs => (readNumeral? cs).map fun (n, rest) => (.number n, rest)

/-- Reads the items of an array, at least one, through the closing bracket. -/
def readItems? : Nat → List Char → Option (List Written × List Char)
  | 0, _ => none
  | fuel + 1, cs => do
    let (v, rest) ← readValue? fuel cs
    match skipSpace rest with
    | ']' :: rest => some ([v], rest)
    | ',' :: rest =>
      let (vs, rest) ← readItems? fuel rest
      some (v :: vs, rest)
    | _ => none

/-- Reads the members of an object, at least one, through the closing brace. -/
def readMembers? : Nat → List Char → Option (List (List Glyph × Written) × List Char)
  | 0, _ => none
  | fuel + 1, cs =>
    match skipSpace cs with
    | '"' :: rest => do
      let (name, rest) ← readQuoted? rest
      match skipSpace rest with
      | ':' :: rest =>
        let (v, rest) ← readValue? fuel rest
        match skipSpace rest with
        | '}' :: rest => some ([(name, v)], rest)
        | ',' :: rest =>
          let (ms, rest) ← readMembers? fuel rest
          some ((name, v) :: ms, rest)
        | _ => none
      | _ => none
    | _ => none

end

/-- Reads a whole text: one value, with white space around it. -/
def Written.read? (cs : List Char) : Option Written :=
  match readValue? (cs.length + 1) cs with
  | some (w, rest) => if (skipSpace rest).isEmpty then some w else none
  | none => none

/-! ## From texts to values -/

/-- The text of a quoted text: surrogates must come in pairs. -/
def glyphText? : List Glyph → Option (List Char)
  | [] => some []
  | .char c :: rest => (glyphText? rest).map (c :: ·)
  | .unit u :: rest =>
    if 0xD800 ≤ u && u < 0xDC00 then
      match rest with
      | .unit v :: rest =>
        if 0xDC00 ≤ v && v < 0xE000 then
          (glyphText? rest).map (Char.ofNat (0x10000 + (u - 0xD800) * 0x400 + (v - 0xDC00)) :: ·)
        else none
      | _ => none
    else if 0xDC00 ≤ u && u < 0xE000 then none
    else (glyphText? rest).map (Char.ofNat u :: ·)

/-- The text of a quoted text, as a string. -/
def quotedText? (glyphs : List Glyph) : Option String :=
  (glyphText? glyphs).map String.ofList

/-! ### Numbers

A number without fraction and exponent is whole if it fits; `-0` does not. Every other number is
a float: as many leading digits as fit into 64 bits, rounded, then multiplied or divided by a
power of ten, rounded again. That is not always the nearest float. -/

/-- Takes further digits while the value stays below `2 ^ 64`; says how many were taken and
whether some are left. -/
def gather (significand taken : Nat) : List Char → Nat × Nat × List Char
  | [] => (significand, taken, [])
  | d :: rest =>
    let next := significand * 10 + (d.toNat - 48)
    if next < Decimal.wordBound then gather next (taken + 1) rest
    else (significand, taken, d :: rest)

/-- `10 ^ n` for `n ≤ 308`, rounded. -/
def powerOfTen (n : Nat) : Float := Float.ofScientific 1 false n

/-- `f / 10 ^ n`, by `10 ^ 308` at a time while `n` is greater than that. -/
def divideByPower (f : Float) (n : Nat) : Float :=
  if n ≤ 308 then f / powerOfTen n
  else if f == 0 then f
  else divideByPower (f / powerOfTen 308) (n - 308)
termination_by n

/-- `f · 10 ^ e`, `none` beyond the floats. -/
def scaleByPower? (f : Float) (e : Int) : Option Float :=
  if e < 0 then some (divideByPower f (-e).toNat)
  else if e ≤ 308 then
    let r := f * powerOfTen e.toNat
    if r.isInf then none else some r
  else if f == 0 then some f
  else none

/-- Exponents are read up to this size; one beyond makes the number zero or too large. -/
def exponentBound : Nat := Nat.pow 2 31

/-- The magnitude of a number that is not whole. -/
def Numeral.magnitude? (n : Numeral) : Option Float :=
  let (s₁, _, skipped) := gather 0 0 n.whole
  -- digits that did not fit still count for the size
  let shift : Int := skipped.length
  let (s₂, taken, _) := gather s₁ 0 (n.fraction.getD [])
  let start : Int := shift - taken
  let f := s₂.toUInt64.toFloat
  match n.exponent with
  | none => scaleByPower? f start
  | some (negative, ds) =>
    let e := Nat.ofDigitChars 10 ds 0
    if e < exponentBound then scaleByPower? f (if negative then start - e else start + e)
    else if s₂ ≠ 0 && !negative then none
    else some 0

/-- The value of a number. -/
def Numeral.value? (n : Numeral) : Option JsonNumber :=
  let whole := Nat.ofDigitChars 10 n.whole 0
  let isInt := n.fraction.isNone && n.exponent.isNone
  if isInt && !n.negative && decide (whole < Decimal.wordBound) then some (.int whole)
  else if isInt && n.negative && decide (0 < whole) && decide (whole ≤ Nat.pow 2 63) then
    some (.int (-(whole : Int)))
  else n.magnitude?.map fun f => .float (if n.negative then -f else f)

mutual

/-- The value of a text, with room for so many levels of nesting. -/
def Written.value? (room : Nat) : Written → Option Json
  | .null => some .null
  | .bool b => some (.bool b)
  | .number n => n.value?.map .number
  | .string gs => (quotedText? gs).map .string
  | .array vs => if room = 0 then none else (itemValues? (room - 1) vs).map .array
  | .object ms => if room = 0 then none else (memberValues? (room - 1) ms).map .object

def itemValues? (room : Nat) : List Written → Option (List Json)
  | [] => some []
  | v :: vs => do
    let x ← v.value? room
    let xs ← itemValues? room vs
    some (x :: xs)

/-- Later members are put first, so that the last one of a name is the one that stays. -/
def memberValues? (room : Nat) : List (List Glyph × Written) → Option (List (String × Json))
  | [] => some []
  | (name, v) :: ms => do
    let key ← quotedText? name
    let x ← v.value? room
    let xs ← memberValues? room ms
    some (match Assoc.find? key xs with
      | some _ => xs
      | none => Assoc.put key x xs)

end

/-- Reads a text as one value. -/
def read? (cs : List Char) : Option Json :=
  (Written.read? cs).bind (Written.value? maxNesting)

end Switchboard.Json
