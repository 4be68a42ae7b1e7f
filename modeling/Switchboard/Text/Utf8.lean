/-!
# UTF-8

Octets and characters. `encode` writes characters; `decodeLenient` reads any octets and puts the
replacement character for every part that is no character, where a part is as long as it can be
while still the start of one.
-/

namespace Switchboard.Text.Utf8

/-- The octets of characters. -/
def encode (cs : List Char) : List UInt8 :=
  cs.flatMap String.utf8EncodeChar

/-- What may follow a first octet: how many octets follow it, the bits it carries, and the range of
the second octet. All later octets lie between 0x80 and 0xBF. -/
structure Lead where
  count : Nat
  bits : Nat
  least : Nat
  most : Nat
  deriving Repr, DecidableEq

/-- The lead that an octet is, if it starts a character of several octets. -/
def Lead.ofOctet? (b : Nat) : Option Lead :=
  if 0xC2 ≤ b && b ≤ 0xDF then some ⟨1, b - 0xC0, 0x80, 0xBF⟩
  else if b = 0xE0 then some ⟨2, 0, 0xA0, 0xBF⟩
  else if b = 0xED then some ⟨2, 0xD, 0x80, 0x9F⟩
  else if 0xE1 ≤ b && b ≤ 0xEF then some ⟨2, b - 0xE0, 0x80, 0xBF⟩
  else if b = 0xF0 then some ⟨3, 0, 0x90, 0xBF⟩
  else if 0xF1 ≤ b && b ≤ 0xF3 then some ⟨3, b - 0xF0, 0x80, 0xBF⟩
  else if b = 0xF4 then some ⟨3, 4, 0x80, 0x8F⟩
  else none

/-- Stands for octets that are no character. -/
def replacement : Char := '\uFFFD'

/-- Takes the octets that continue a character: the number it stands for if all are there, and how
many fit. -/
def Lead.continue (l : Lead) : List UInt8 → Option Nat × Nat
  | b :: rest =>
    if l.least ≤ b.toNat && b.toNat ≤ l.most then
      match l.count with
      | 0 => (none, 0)
      | 1 => (some (l.bits * 64 + (b.toNat - 0x80)), 1)
      | n + 1 =>
        let (value, used) :=
          Lead.continue ⟨n, l.bits * 64 + (b.toNat - 0x80), 0x80, 0xBF⟩ rest
        (value, used + 1)
    else (none, 0)
  | [] => (none, 0)

/-- Reads octets; the fuel is their number. -/
def decodeFuel : Nat → List UInt8 → List (Option Char)
  | 0, _ => []
  | _, [] => []
  | fuel + 1, b :: rest =>
    if b.toNat < 0x80 then some (Char.ofNat b.toNat) :: decodeFuel fuel rest
    else
      match Lead.ofOctet? b.toNat with
      | none => none :: decodeFuel fuel rest
      | some lead =>
        let (value, used) := lead.continue rest
        value.map Char.ofNat :: decodeFuel fuel (rest.drop used)

/-- The characters of octets, `none` for each part that is no character. -/
def decodeParts (bytes : List UInt8) : List (Option Char) :=
  decodeFuel bytes.length bytes

/-- The characters of octets, if all of them are characters. -/
def decode? (bytes : List UInt8) : Option (List Char) :=
  (decodeParts bytes).mapM id

/-- The characters of octets, with a replacement for each part that is none. -/
def decodeLenient (bytes : List UInt8) : List Char :=
  (decodeParts bytes).map fun c => c.getD replacement

end Switchboard.Text.Utf8
