import Switchboard.Base64
import Switchboard.Decimal
import Switchboard.Text.Blank

/-!
# Cursors

A cursor is an opaque token that carries the offset of the next item of a listing: the
address-safe base 64 text of `offset:` and the numeral. Reading a cursor never fails: whatever is
not such a token stands for the start of the listing.
-/

namespace Switchboard.Cursor

/-- What stands before the numeral inside a token. -/
def label : List Char := "offset:".toList

def octets (cs : List Char) : List UInt8 :=
  cs.map (fun c => UInt8.ofNat c.toNat)

def characters (bytes : List UInt8) : List Char :=
  bytes.map (fun b => Char.ofNat b.toNat)

/-- The token of an offset. -/
def encode (offset : Nat) : String :=
  String.ofList (Base64.encode Base64.addressSafe (octets (label ++ Decimal.write offset)))

/-- The offset inside the octets of a token. An octet beyond ASCII is no digit, so it does not
matter whether the octets are text. -/
def offsetOf? (bytes : List UInt8) : Option Nat :=
  let cs := characters bytes
  if label.isPrefixOf cs then Decimal.readWord? (cs.drop label.length) else none

/-- The offset of a token, 0 for anything that is no token. Blanks around the token are ignored. -/
def decode (token : String) : Nat :=
  match Base64.decode? Base64.addressSafe (Text.trim token.toList) with
  | some bytes => (offsetOf? bytes).getD 0
  | none => 0

/-! ## Tokens lead back to their offsets -/

theorem characters_octets {cs : List Char} (h : ∀ c ∈ cs, c.toNat < 256) :
    characters (octets cs) = cs := by
  have hchar : ∀ c ∈ cs, Char.ofNat (UInt8.ofNat c.toNat).toNat = c := by
    intro c hc
    rw [UInt8.toNat_ofNat_of_lt' (h c hc), Char.ofNat_toNat]
  simp only [characters, octets, List.map_map]
  exact (List.map_congr_left hchar).trans (List.map_id cs)

theorem toNat_lt_of_isDigit {c : Char} (h : c.isDigit = true) : c.toNat < 256 := by
  simp only [Char.isDigit, Bool.and_eq_true, decide_eq_true_eq] at h
  have hle : c.toNat ≤ 57 := UInt32.le_iff_toNat_le.mp h.2
  omega

theorem offsetOf?_octets {offset : Nat} (h : offset < Decimal.wordBound) :
    offsetOf? (octets (label ++ Decimal.write offset)) = some offset := by
  have hascii : ∀ c ∈ label ++ Decimal.write offset, c.toNat < 256 := by
    intro c hc
    rcases List.mem_append.mp hc with hlabel | hdigit
    · have hall : label.all (fun c => decide (c.toNat < 256)) = true := rfl
      exact of_decide_eq_true (List.all_eq_true.mp hall c hlabel)
    · exact toNat_lt_of_isDigit (List.all_eq_true.mp (Decimal.all_isDigit_write offset) c hdigit)
  simp only [offsetOf?]
  rw [characters_octets hascii, if_pos (by simp), List.drop_left, Decimal.readWord?_write h]

theorem not_blank_of_mem_encode {bytes : List UInt8} {c : Char}
    (h : c ∈ Base64.encode Base64.addressSafe bytes) : Text.isBlank c = false := by
  obtain ⟨n, hn, rfl⟩ := Base64.exists_digit_of_mem_encode h
  have hall : ∀ n < 64, Text.isBlank (Base64.addressSafe.digit n) = false := by decide
  exact hall n hn

/-- A token leads back to its offset, if that is a 64-bit word. -/
theorem decode_encode {offset : Nat} (h : offset < Decimal.wordBound) :
    decode (encode offset) = offset := by
  rw [decode, encode, String.toList_ofList,
    Text.trim_eq_self (fun _ hc => not_blank_of_mem_encode hc), Base64.decode?_encode]
  simp only [offsetOf?_octets h, Option.getD_some]

theorem decode_lt (token : String) : decode token < Decimal.wordBound := by
  have hzero : 0 < Decimal.wordBound := by decide
  unfold decode
  split
  · next bytes _ =>
    cases hoffset : offsetOf? bytes with
    | none => exact hzero
    | some offset =>
      simp only [offsetOf?] at hoffset
      split at hoffset
      · exact Decimal.lt_wordBound_of_readWord? hoffset
      · cases hoffset
  · exact hzero

end Switchboard.Cursor
