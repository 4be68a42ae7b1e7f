/-!
# Base 64

Octets as text, three octets to four digits. The digits and the filling of the last group are the
caller's: cursors use the alphabet that is safe in addresses and no filling, credentials the
standard alphabet and filling with `=`.

Reading is offered for the address-safe form and accepts canonical text only: no filling, no foreign
character, no length that leaves one digit over, no set bit in the unused part of the last digit.
-/

namespace Switchboard.Base64

/-- The digits of an alphabet that differ between alphabets. -/
structure Alphabet where
  digit62 : Char
  digit63 : Char
  /-- Fill the last group up to four characters with this. -/
  filling : Option Char
  deriving Repr, DecidableEq

/-- Digits that need no escaping in addresses, and no filling. -/
def addressSafe : Alphabet := ⟨'-', '_', none⟩

/-- The standard digits, filled with `=`. -/
def standard : Alphabet := ⟨'+', '/', some '='⟩

/-- The character of a digit below 64. -/
def Alphabet.digit (a : Alphabet) (n : Nat) : Char :=
  if n < 26 then Char.ofNat (65 + n)
  else if n < 52 then Char.ofNat (97 + (n - 26))
  else if n < 62 then Char.ofNat (48 + (n - 52))
  else if n = 62 then a.digit62
  else a.digit63

/-- The digit that a character stands for. -/
def Alphabet.value? (a : Alphabet) (c : Char) : Option Nat :=
  let n := c.toNat
  if 65 ≤ n && n ≤ 90 then some (n - 65)
  else if 97 ≤ n && n ≤ 122 then some (n - 97 + 26)
  else if 48 ≤ n && n ≤ 57 then some (n - 48 + 52)
  else if c = a.digit62 then some 62
  else if c = a.digit63 then some 63
  else none

private def Alphabet.fill (a : Alphabet) (count : Nat) : List Char :=
  match a.filling with
  | some c => List.replicate count c
  | none => []

/-- Writes octets. -/
def encode (a : Alphabet) : List UInt8 → List Char
  | x :: y :: z :: rest =>
    let n := x.toNat * 65536 + y.toNat * 256 + z.toNat
    a.digit (n / 262144) :: a.digit (n / 4096 % 64) :: a.digit (n / 64 % 64) ::
      a.digit (n % 64) :: encode a rest
  | [x, y] =>
    let n := x.toNat * 65536 + y.toNat * 256
    a.digit (n / 262144) :: a.digit (n / 4096 % 64) :: a.digit (n / 64 % 64) :: a.fill 1
  | [x] =>
    let n := x.toNat * 65536
    a.digit (n / 262144) :: a.digit (n / 4096 % 64) :: a.fill 2
  | [] => []

/-- Reads canonical text without filling. -/
def decode? (a : Alphabet) : List Char → Option (List UInt8)
  | c :: d :: e :: f :: rest => do
    let w ← a.value? c
    let x ← a.value? d
    let y ← a.value? e
    let z ← a.value? f
    let n := w * 262144 + x * 4096 + y * 64 + z
    let tail ← decode? a rest
    some (UInt8.ofNat (n / 65536) :: UInt8.ofNat (n / 256 % 256) :: UInt8.ofNat (n % 256) :: tail)
  | [c, d, e] => do
    let w ← a.value? c
    let x ← a.value? d
    let y ← a.value? e
    if y % 4 = 0 then
      let n := w * 4096 + x * 64 + y
      some [UInt8.ofNat (n / 1024), UInt8.ofNat (n / 4 % 256)]
    else none
  | [c, d] => do
    let w ← a.value? c
    let x ← a.value? d
    if x % 16 = 0 then some [UInt8.ofNat ((w * 64 + x) / 16)] else none
  | [_] => none
  | [] => some []

/-! ## Reading what was written -/

theorem encode_singleton (x : UInt8) :
    encode addressSafe [x] = [addressSafe.digit (x.toNat * 65536 / 262144),
      addressSafe.digit (x.toNat * 65536 / 4096 % 64)] := rfl

theorem encode_pair (x y : UInt8) :
    encode addressSafe [x, y] =
      [addressSafe.digit ((x.toNat * 65536 + y.toNat * 256) / 262144),
        addressSafe.digit ((x.toNat * 65536 + y.toNat * 256) / 4096 % 64),
        addressSafe.digit ((x.toNat * 65536 + y.toNat * 256) / 64 % 64)] := rfl

theorem value?_digit {n : Nat} (h : n < 64) :
    addressSafe.value? (addressSafe.digit n) = some n := by
  have hall : ∀ m < 64, addressSafe.value? (addressSafe.digit m) = some m := by decide
  exact hall n h

/-- Four digits to the base 64 make up three octets. -/
theorem sum_digits (n : Nat) :
    n / 262144 * 262144 + n / 4096 % 64 * 4096 + n / 64 % 64 * 64 + n % 64 = n := by
  have hhigh : n / 4096 % 64 = n / 4096 - n / 262144 * 64 := by omega
  have hlow : n / 64 % 64 = n / 64 - n / 4096 * 64 := by omega
  omega

theorem decode?_of_values {a : Alphabet} {c d e f : Char} {w x y z : Nat} {rest : List Char}
    {tail : List UInt8} (hc : a.value? c = some w) (hd : a.value? d = some x)
    (he : a.value? e = some y) (hf : a.value? f = some z) (hrest : decode? a rest = some tail) :
    decode? a (c :: d :: e :: f :: rest) =
      some (UInt8.ofNat ((w * 262144 + x * 4096 + y * 64 + z) / 65536) ::
        UInt8.ofNat ((w * 262144 + x * 4096 + y * 64 + z) / 256 % 256) ::
        UInt8.ofNat ((w * 262144 + x * 4096 + y * 64 + z) % 256) :: tail) := by
  simp only [decode?, hc, hd, he, hf, hrest, Option.bind_eq_bind, Option.bind_some]

theorem decode?_triple {a : Alphabet} {c d e : Char} {w x y : Nat} (hc : a.value? c = some w)
    (hd : a.value? d = some x) (he : a.value? e = some y) (hlow : y % 4 = 0) :
    decode? a [c, d, e] = some [UInt8.ofNat ((w * 4096 + x * 64 + y) / 1024),
      UInt8.ofNat ((w * 4096 + x * 64 + y) / 4 % 256)] := by
  simp only [decode?, hc, hd, he, Option.bind_eq_bind, Option.bind_some, if_pos hlow]

theorem decode?_pair {a : Alphabet} {c d : Char} {w x : Nat} (hc : a.value? c = some w)
    (hd : a.value? d = some x) (hlow : x % 16 = 0) :
    decode? a [c, d] = some [UInt8.ofNat ((w * 64 + x) / 16)] := by
  simp only [decode?, hc, hd, Option.bind_eq_bind, Option.bind_some, if_pos hlow]

theorem decode?_encode (bytes : List UInt8) :
    decode? addressSafe (encode addressSafe bytes) = some bytes := by
  match bytes with
  | [] => rfl
  | [x] =>
    have hx : x.toNat < 256 := x.toNat_lt
    have hlow : x.toNat * 65536 / 4096 % 64 % 16 = 0 := by omega
    have hbyte : (x.toNat * 65536 / 262144 * 64 + x.toNat * 65536 / 4096 % 64) / 16 = x.toNat := by
      omega
    rw [encode_singleton, decode?_pair (value?_digit (by omega)) (value?_digit (by omega)) hlow,
      hbyte, UInt8.ofNat_toNat]
  | [x, y] =>
    have hx : x.toNat < 256 := x.toNat_lt
    have hy : y.toNat < 256 := y.toNat_lt
    rw [encode_pair]
    generalize hn : x.toNat * 65536 + y.toNat * 256 = n
    have hlow : n / 64 % 64 % 4 = 0 := by omega
    have hfirst : (n / 262144 * 4096 + n / 4096 % 64 * 64 + n / 64 % 64) / 1024 = x.toNat := by
      omega
    have hsecond : (n / 262144 * 4096 + n / 4096 % 64 * 64 + n / 64 % 64) / 4 % 256 = y.toNat := by
      omega
    rw [decode?_triple (value?_digit (by omega)) (value?_digit (by omega)) (value?_digit (by omega))
      hlow, hfirst, hsecond, UInt8.ofNat_toNat, UInt8.ofNat_toNat]
  | x :: y :: z :: rest =>
    have hx : x.toNat < 256 := x.toNat_lt
    have hy : y.toNat < 256 := y.toNat_lt
    have hz : z.toNat < 256 := z.toNat_lt
    rw [encode]
    generalize hn : x.toNat * 65536 + y.toNat * 256 + z.toNat = n
    have hfirst : n / 65536 = x.toNat := by omega
    have hsecond : n / 256 % 256 = y.toNat := by omega
    have hthird : n % 256 = z.toNat := by omega
    rw [decode?_of_values (value?_digit (by omega)) (value?_digit (by omega))
      (value?_digit (by omega)) (value?_digit (by omega)) (decode?_encode rest), sum_digits, hfirst,
      hsecond, hthird, UInt8.ofNat_toNat, UInt8.ofNat_toNat, UInt8.ofNat_toNat]

/-- Text without filling is made of digits. -/
theorem exists_digit_of_mem_encode {bytes : List UInt8} {c : Char}
    (h : c ∈ encode addressSafe bytes) : ∃ n < 64, c = addressSafe.digit n := by
  match bytes with
  | [] => cases h
  | [x] =>
    have hx : x.toNat < 256 := x.toNat_lt
    simp only [encode_singleton, List.mem_cons, List.not_mem_nil, or_false] at h
    rcases h with rfl | rfl
    · exact ⟨_, by omega, rfl⟩
    · exact ⟨_, by omega, rfl⟩
  | [x, y] =>
    have hx : x.toNat < 256 := x.toNat_lt
    have hy : y.toNat < 256 := y.toNat_lt
    simp only [encode_pair, List.mem_cons, List.not_mem_nil, or_false] at h
    rcases h with rfl | rfl | rfl
    · exact ⟨_, by omega, rfl⟩
    · exact ⟨_, by omega, rfl⟩
    · exact ⟨_, by omega, rfl⟩
  | x :: y :: z :: rest =>
    have hx : x.toNat < 256 := x.toNat_lt
    have hy : y.toNat < 256 := y.toNat_lt
    have hz : z.toNat < 256 := z.toNat_lt
    simp only [encode, List.mem_cons] at h
    rcases h with rfl | rfl | rfl | rfl | hrest
    · exact ⟨_, by omega, rfl⟩
    · exact ⟨_, by omega, rfl⟩
    · exact ⟨_, by omega, rfl⟩
    · exact ⟨_, by omega, rfl⟩
    · exact exists_digit_of_mem_encode hrest

end Switchboard.Base64
