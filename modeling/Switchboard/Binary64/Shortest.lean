/-!
# Shortest decimals of 64-bit floats

The decimal with the fewest digits that reads back as a given positive float, and among those the
one nearest to it (an exact tie goes to the even last digit). All arithmetic is exact: a float is
`mantissa · 2 ^ exponent`, and a decimal reads back as that float when it lies in the interval of
reals that round to it.

For each digit count from 1 to 17 only the two neighbours of the float on that decimal grid are
tried. That is enough: if any point of a grid lies in the interval, one of these two does.
-/

namespace Switchboard.Binary64

/-- A positive finite float `mantissa · 2 ^ exponent` with what the search needs to know. -/
structure Magnitude where
  mantissa : Nat
  exponent : Int
  /-- The gap below is half of the gap above: the mantissa is the least of its binade. -/
  tight : Bool
  deriving Repr, DecidableEq

/-- The magnitude of a float, `none` for zero and for what is not finite. -/
def magnitude? (f : Float) : Option Magnitude :=
  let bits := f.toBits.toNat
  let fraction : Nat := bits % Nat.pow 2 52
  let biased : Nat := bits / Nat.pow 2 52 % Nat.pow 2 11
  if biased = 2047 then none
  else if biased = 0 then
    if fraction = 0 then none else some ⟨fraction, -1074, false⟩
  else some ⟨fraction + Nat.pow 2 52, (biased : Int) - 1075, fraction == 0 && decide (1 < biased)⟩

/-- Whether the sign bit is set; it is for `-0.0`. -/
def isNegative (f : Float) : Bool :=
  f.toBits.toNat / Nat.pow 2 63 = 1

/-- A fraction of two naturals. -/
structure Ratio where
  num : Nat
  den : Nat

/-- `n · base ^ e`, with the power on the side where it is a natural. -/
def scaled (n base : Nat) (e : Int) : Ratio :=
  if e < 0 then ⟨n, Nat.pow base (-e).toNat⟩ else ⟨n * Nat.pow base e.toNat, 1⟩

/-- `a < b` -/
def Ratio.lt (a b : Ratio) : Bool := a.num * b.den < b.num * a.den

/-- Lower end, value and upper end of the interval of reals that round to a float. -/
def Magnitude.interval (m : Magnitude) : Ratio × Ratio × Ratio :=
  let e := m.exponent - 2
  let below := if m.tight then 4 * m.mantissa - 1 else 4 * m.mantissa - 2
  (scaled below 2 e, scaled (4 * m.mantissa) 2 e, scaled (4 * m.mantissa + 2) 2 e)

/-- Whether a real rounds to the float; the ends do when the mantissa is even. -/
def Magnitude.reads (m : Magnitude) (x : Ratio) : Bool :=
  let (lo, _, hi) := m.interval
  if m.mantissa % 2 = 0 then !x.lt lo && !hi.lt x else lo.lt x && x.lt hi

/-- The greatest `k` with `10 ^ k ≤ x`, searched upward from an estimate that is never too large. -/
def decimalExponent (x : Ratio) (start : Int) : Nat → Int
  | 0 => start
  | fuel + 1 =>
    if x.lt (scaled 1 10 (start + 1)) then start else decimalExponent x (start + 1) fuel

/-- A lower estimate of the decimal exponent: `log₁₀ 2` lies between 0.30102 and 0.30103. -/
def estimate (m : Magnitude) : Int :=
  let bits := (m.mantissa.log2 : Int) + m.exponent
  if bits < 0 then (bits * 30103) / 100000 - 1 else (bits * 30102) / 100000 - 1

/-- The better of the two neighbours of the float among the multiples of `10 ^ e`. -/
def neighbour? (m : Magnitude) (e : Int) : Option Nat :=
  let (_, value, _) := m.interval
  let unit := scaled 1 10 e
  let low := (value.num * unit.den) / (value.den * unit.num)
  let point (d : Nat) := scaled d 10 e
  let lowOk := decide (0 < low) && m.reads (point low)
  let highOk := m.reads (point (low + 1))
  if lowOk && highOk then
    -- twice the value against the sum of both neighbours
    let mid := scaled (2 * low + 1) 10 e
    let twice : Ratio := ⟨2 * value.num, value.den⟩
    if twice.lt mid then some low
    else if mid.lt twice then some (low + 1)
    else if low % 2 = 0 then some low
    else some (low + 1)
  else if lowOk then some low
  else if highOk then some (low + 1)
  else none

/-- Digits and decimal exponent of the shortest decimal: the value is `digits · 10 ^ exponent`. -/
def shortest (m : Magnitude) : Nat × Int :=
  let (_, value, _) := m.interval
  let k := decimalExponent value (estimate m) 4
  let found := (List.range 17).findSome? fun (n : Nat) =>
    let e := k - (n : Int)
    (neighbour? m e).map (·, e)
  let (digits, e) := found.getD (0, 0)
  -- only the next power of ten ends in a zero: it is one digit on the next coarser grid
  if digits % 10 = 0 then (digits / 10, e + 1) else (digits, e)

end Switchboard.Binary64
