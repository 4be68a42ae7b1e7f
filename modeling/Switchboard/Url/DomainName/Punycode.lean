/-!
# Labels in ASCII

A text is written with letters, digits and hyphens alone: first its ASCII characters, then, after a
hyphen, where the others have to be put in. They are put in one at a time, smaller code points
first and from the left to the right within one code point, so a place is told by how far it is
from the one before: a number, whose digits have weights that adapt to the numbers written before.

Main definitions: `Punycode.encode` and `Punycode.decode?`.
-/

namespace Switchboard.Punycode

/-! ## Numbers -/

/-- The character of a digit. -/
def digit (d : Nat) : Char :=
  if d < 26 then Char.ofNat (0x61 + d) else Char.ofNat (0x30 + (d - 26))

/-- The digit of a character. -/
def value? (c : Char) : Option Nat :=
  let n := c.toNat
  if 0x61 ≤ n && n ≤ 0x7A then some (n - 0x61)
  else if 0x41 ≤ n && n ≤ 0x5A then some (n - 0x41)
  else if 0x30 ≤ n && n ≤ 0x39 then some (n - 0x30 + 26)
  else none

/-- A digit below this one ends its number; `place` is 36 times the place of the digit, from 1. -/
def threshold (place bias : Nat) : Nat :=
  if place ≤ bias then 1 else min 26 (place - bias)

theorem threshold_pos (place bias : Nat) : 0 < threshold place bias := by
  rw [threshold]
  split <;> omega

/-- The digits of a number. -/
def writeNumber (bias place q : Nat) : List Char :=
  let t := threshold place bias
  if q < t then [digit q]
  else digit (t + (q - t) % (36 - t)) :: writeNumber bias (place + 36) ((q - t) / (36 - t))
termination_by q
decreasing_by
  have := threshold_pos place bias
  exact Nat.lt_of_le_of_lt (Nat.div_le_self _ _) (by omega)

/-- Reads a number; `sum` is the value of the digits before, and `weight` that of a unit. -/
def readNumber? (bias place weight sum : Nat) : List Char → Option (Nat × List Char)
  | [] => none
  | c :: rest =>
    match value? c with
    | none => none
    | some d =>
      if d < threshold place bias then some (sum + d * weight, rest)
      else
        readNumber? bias (place + 36) (weight * (36 - threshold place bias)) (sum + d * weight) rest

theorem readNumber?_length {bias place weight sum n : Nat} {cs rest : List Char}
    (h : readNumber? bias place weight sum cs = some (n, rest)) : rest.length < cs.length := by
  induction cs generalizing place weight sum with
  | nil => cases h
  | cons c cs ih =>
    rw [readNumber?] at h
    split at h
    · cases h
    · split at h
      · obtain ⟨-, rfl⟩ := Prod.mk.inj (Option.some.inj h)
        simp
      · have := ih h
        simp only [List.length_cons]
        omega

/-- Brings a number down to a size at which weights settle. -/
def settle (delta place : Nat) : Nat :=
  if 455 < delta then settle (delta / 35) (place + 36) else place + 36 * delta / (delta + 38)
termination_by delta
decreasing_by exact Nat.div_lt_self (by omega) (by omega)

/-- The bias after a number, when `size` characters are there. -/
def nextBias (delta size : Nat) (isFirst : Bool) : Nat :=
  let d := if isFirst then delta / 700 else delta / 2
  settle (d + d / size) 0

/-! ## Places -/

/-- Where things stand when characters have been put in: how many characters there are, the least
code point and the least place that can come next, and the bias. -/
structure Progress where
  size : Nat
  code : Nat
  place : Nat
  bias : Nat
  isFirst : Bool
  deriving Repr, DecidableEq

/-- Where things stand before anything is put in. -/
def Progress.start (size : Nat) : Progress := ⟨size, 0x80, 0, 72, true⟩

/-- Where things stand after a character that was told by `delta`. -/
def Progress.next (p : Progress) (delta code place : Nat) : Progress :=
  ⟨p.size + 1, code, place + 1, nextBias delta (p.size + 1) p.isFirst, false⟩

/-- Whether a character stands for itself. -/
def isBasic (c : Char) : Bool := c.toNat < 0x80

/-- The code points that are put in, each with its place, in order. -/
def insertions (cs : List Char) : List (Nat × Nat) :=
  let places := cs.zipIdx.filterMap fun (c, i) =>
    if isBasic c then none
    else some (c.toNat, (cs.take i).countP fun d => d.toNat ≤ c.toNat)
  places.mergeSort fun a b => a.1 ≤ b.1

/-- Writes what is put in. -/
def writeInsertions (p : Progress) : List (Nat × Nat) → List Char
  | [] => []
  | (code, place) :: rest =>
    let delta := (code - p.code) * (p.size + 1) + place - p.place
    writeNumber p.bias 36 delta ++ writeInsertions (p.next delta code place) rest

/-- Writes a text. -/
def encode (cs : List Char) : List Char :=
  let basic := cs.filter isBasic
  (if basic.isEmpty then [] else basic ++ ['-']) ++
    writeInsertions (.start basic.length) (insertions cs)

/-- The character of a code point. -/
def character? (n : Nat) : Option Char :=
  if h : n.isValidChar then some (Char.ofNatAux n h) else none

/-- Reads what is put in. -/
def readInsertions? (p : Progress) (text : List Char) (cs : List Char) : Option (List Char) :=
  if cs.isEmpty then some text
  else
    match h : readNumber? p.bias 36 1 0 cs with
    | none => none
    | some (delta, rest) =>
      have := readNumber?_length h
      let sum := p.place + delta
      let code := p.code + sum / (p.size + 1)
      let place := sum % (p.size + 1)
      match character? code with
      | none => none
      | some c => readInsertions? (p.next delta code place) (text.insertIdx place c) rest
termination_by cs.length

/-- Cuts at the last hyphen; without one there is nothing before it. -/
def cutLastHyphen (cs : List Char) : List Char × List Char :=
  match cs.reverse.span (· ≠ '-') with
  | (after, _ :: before) => (before.reverse, after.reverse)
  | (after, []) => ([], after.reverse)

/-- Reads a text. -/
def decode? (cs : List Char) : Option (List Char) :=
  let (basic, rest) := cutLastHyphen cs
  if basic.all isBasic then readInsertions? (.start basic.length) basic rest else none

end Switchboard.Punycode
