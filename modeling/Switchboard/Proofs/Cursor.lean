import Switchboard.Listing.Cursor
import Switchboard.Proofs.Base64
import Switchboard.Proofs.Utf8

/-!
# Which tokens are read

A token says an offset in one way only, up to a sign and zeros in front of the digits. `Carries`
describes these tokens without the reader: without the blanks around it the token is the one
base 64 text (`Base64.Spells`) of the octets of `offset:` and a numeral. The reader agrees with
this for every string (`decode_eq_iff`), so whatever is no such token stands for the start of a
listing.
-/

namespace Switchboard.Cursor

/-- A token carries an offset if it spells the octets of `offset:`, perhaps a plus sign, and digits
with this value, which has to fit into 64 bits. Blanks around it do not count. -/
def Carries (token : String) (offset : Nat) : Prop :=
  ∃ sign digits : List Char, (sign = [] ∨ sign = ['+']) ∧ digits ≠ [] ∧
    digits.all Char.isDigit = true ∧ Nat.ofDigitChars 10 digits 0 = offset ∧
    offset < Decimal.wordBound ∧
    Base64.Spells (Text.trim token.toList) (Text.Utf8.encode ("offset:".toList ++ sign ++ digits))

/-! ## The octets of a token -/

theorem octets_characters (bytes : List UInt8) : octets (characters bytes) = bytes := by
  have hoctet : ∀ b : UInt8, UInt8.ofNat (Char.ofNat b.toNat).toNat = b := fun b => by
    have hlt : b.toNat < 256 := b.toNat_lt
    rw [show (Char.ofNat b.toNat).toNat = b.toNat from Text.Utf8.toNat_ofNat (.inl (by omega)),
      UInt8.ofNat_toNat]
  simp only [octets, characters, List.map_map]
  exact (List.map_congr_left fun b _ => hoctet b).trans (List.map_id bytes)

theorem offsetOf?_eq_some {bytes : List UInt8} {offset : Nat} (h : offsetOf? bytes = some offset) :
    ∃ numeral, Decimal.readWord? numeral = some offset ∧ bytes = octets (label ++ numeral) := by
  simp only [offsetOf?] at h
  split at h
  · next hlabel =>
    obtain ⟨numeral, hnumeral⟩ := List.isPrefixOf_iff_prefix.mp hlabel
    rw [← hnumeral, List.drop_left] at h
    exact ⟨numeral, h, by rw [hnumeral, octets_characters]⟩
  · cases h

theorem offsetOf?_label {numeral : List Char} {offset : Nat}
    (hascii : ∀ c ∈ numeral, c.toNat < 256) (h : Decimal.readWord? numeral = some offset) :
    offsetOf? (octets (label ++ numeral)) = some offset := by
  have hall : ∀ c ∈ label ++ numeral, c.toNat < 256 := fun c hc => by
    rcases List.mem_append.mp hc with hlabel | hnumeral
    · have hlabels : label.all (fun c => decide (c.toNat < 256)) = true := by decide
      exact of_decide_eq_true (List.all_eq_true.mp hlabels c hlabel)
    · exact hascii c hnumeral
  rw [offsetOf?, characters_octets hall, if_pos (by simp), List.drop_left, h]

/-- The characters of a numeral are ASCII. -/
theorem ascii_of_numeral {sign digits : List Char} (hsign : sign = [] ∨ sign = ['+'])
    (hdigits : digits.all Char.isDigit = true) : ∀ c ∈ sign ++ digits, c.toNat < 0x80 := by
  intro c hc
  rcases List.mem_append.mp hc with hc | hc
  · rcases hsign with rfl | rfl
    · cases hc
    · rw [List.mem_singleton.mp hc]
      decide
  · have hdigit : c.isDigit = true := List.all_eq_true.mp hdigits c hc
    simp only [Char.isDigit, Bool.and_eq_true, decide_eq_true_eq] at hdigit
    have hle : c.toNat ≤ 57 := UInt32.le_iff_toNat_le.mp hdigit.2
    omega

theorem octets_numeral {sign digits : List Char} (hsign : sign = [] ∨ sign = ['+'])
    (hdigits : digits.all Char.isDigit = true) :
    octets (label ++ (sign ++ digits)) = Text.Utf8.encode ("offset:".toList ++ sign ++ digits) := by
  have hascii : ∀ c ∈ "offset:".toList ++ (sign ++ digits), c.toNat < 0x80 := fun c hc => by
    rcases List.mem_append.mp hc with hlabel | hnumeral
    · have hlabels : "offset:".toList.all (fun c => decide (c.toNat < 0x80)) = true := by decide
      exact of_decide_eq_true (List.all_eq_true.mp hlabels c hlabel)
    · exact ascii_of_numeral hsign hdigits c hnumeral
  rw [List.append_assoc, Text.Utf8.encode_ascii hascii]
  rfl

theorem offsetOf?_eq_some_iff {bytes : List UInt8} {offset : Nat} :
    offsetOf? bytes = some offset ↔
      ∃ sign digits : List Char, (sign = [] ∨ sign = ['+']) ∧ digits ≠ [] ∧
        digits.all Char.isDigit = true ∧ Nat.ofDigitChars 10 digits 0 = offset ∧
        offset < Decimal.wordBound ∧
        bytes = Text.Utf8.encode ("offset:".toList ++ sign ++ digits) := by
  constructor
  · intro h
    obtain ⟨numeral, hread, rfl⟩ := offsetOf?_eq_some h
    obtain ⟨sign, digits, rfl, hsign, hne, hdigits, hvalue, hlt⟩ :=
      Decimal.readWord?_eq_some_iff.mp hread
    exact ⟨sign, digits, hsign, hne, hdigits, hvalue, hlt, octets_numeral hsign hdigits⟩
  · rintro ⟨sign, digits, hsign, hne, hdigits, hvalue, hlt, rfl⟩
    rw [← octets_numeral hsign hdigits]
    refine offsetOf?_label (fun c hc => ?_) ?_
    · exact Nat.lt_trans (ascii_of_numeral hsign hdigits c hc) (by decide)
    · exact Decimal.readWord?_eq_some_iff.mpr
        ⟨sign, digits, rfl, hsign, hne, hdigits, hvalue, hlt⟩

/-! ## Tokens -/

/-- A token is read as what it carries, and as 0 if it carries nothing. -/
theorem decode_eq_of_carries {token : String} {offset : Nat} (h : Carries token offset) :
    decode token = offset := by
  obtain ⟨sign, digits, hsign, hne, hdigits, hvalue, hlt, hspells⟩ := h
  have hoffset : offsetOf? (Text.Utf8.encode ("offset:".toList ++ sign ++ digits)) = some offset :=
    offsetOf?_eq_some_iff.mpr ⟨sign, digits, hsign, hne, hdigits, hvalue, hlt, rfl⟩
  rw [decode, Base64.decode?_eq_some_iff.mpr hspells]
  simp only [hoffset, Option.getD_some]

theorem carries_of_decode_pos {token : String} (h : 0 < decode token) :
    Carries token (decode token) := by
  cases hbytes : Base64.decode? Base64.addressSafe (Text.trim token.toList) with
  | none =>
    rw [decode, hbytes] at h
    cases h
  | some bytes =>
    have hdecode : decode token = (offsetOf? bytes).getD 0 := by rw [decode, hbytes]
    cases hoffset : offsetOf? bytes with
    | none =>
      rw [hdecode, hoffset] at h
      cases h
    | some offset =>
      rw [hdecode, hoffset, Option.getD_some]
      obtain ⟨sign, digits, hsign, hne, hdigits, hvalue, hlt, rfl⟩ :=
        offsetOf?_eq_some_iff.mp hoffset
      exact ⟨sign, digits, hsign, hne, hdigits, hvalue, hlt, Base64.decode?_eq_some_iff.mp hbytes⟩

theorem decode_eq_iff {token : String} {offset : Nat} (h : 0 < offset) :
    decode token = offset ↔ Carries token offset := by
  refine ⟨?_, decode_eq_of_carries⟩
  rintro rfl
  exact carries_of_decode_pos h

theorem decode_surrounded {offset : Nat} (h : offset < Decimal.wordBound) {before after : List Char}
    (hbefore : ∀ c ∈ before, Text.isBlank c = true) (hafter : ∀ c ∈ after, Text.isBlank c = true) :
    decode (String.ofList (before ++ (encode offset).toList ++ after)) = offset := by
  have hblank : ∀ c ∈ (encode offset).toList, Text.isBlank c = false := fun c hc => by
    rw [encode, String.toList_ofList] at hc
    exact not_blank_of_mem_encode hc
  have htrim : decode (String.ofList (before ++ (encode offset).toList ++ after)) =
      decode (encode offset) := by
    rw [decode, decode, String.toList_ofList, Text.trim_append hbefore hblank hafter,
      Text.trim_eq_self hblank]
  rw [htrim, decode_encode h]

/-- Characters of tokens need no escaping anywhere. -/
theorem plain_of_mem_encode {offset : Nat} {c : Char} (h : c ∈ (encode offset).toList) :
    c.isAlphanum = true ∨ c = '-' ∨ c = '_' := by
  have hall : ∀ n < 64, (Base64.addressSafe.digit n).isAlphanum = true ∨
      Base64.addressSafe.digit n = '-' ∨ Base64.addressSafe.digit n = '_' := by decide
  rw [encode, String.toList_ofList] at h
  obtain ⟨n, hn, rfl⟩ := Base64.exists_digit_of_mem_encode h
  exact hall n hn

theorem encode_ne_empty (offset : Nat) : encode offset ≠ "" := by
  intro h
  have hnil : Base64.encode Base64.addressSafe (octets (label ++ Decimal.write offset)) = [] := by
    have htoList := congrArg String.toList h
    rwa [encode, String.toList_ofList] at htoList
  have hread := Base64.decode?_encode (octets (label ++ Decimal.write offset))
  rw [hnil] at hread
  cases hread

/-- The token of an offset below 2^64 is not empty, is made of letters, digits, `-` and `_`, and
leads back to the offset whatever blanks stand around it. And no token leads to an offset other than
0 but those that carry it, so every other string leads to 0. -/
theorem codec_exact :
    (∀ offset < Decimal.wordBound, encode offset ≠ "" ∧
      (∀ c ∈ (encode offset).toList, c.isAlphanum = true ∨ c = '-' ∨ c = '_') ∧
      decode (encode offset) = offset ∧
      ∀ before after : List Char, (∀ c ∈ before, Text.isBlank c = true) →
        (∀ c ∈ after, Text.isBlank c = true) →
        decode (String.ofList (before ++ (encode offset).toList ++ after)) = offset) ∧
    (∀ (token : String) (offset : Nat), 0 < offset →
      (decode token = offset ↔ Carries token offset)) ∧
    ∀ token : String, (¬ ∃ offset, Carries token offset) → decode token = 0 := by
  refine ⟨fun offset h => ⟨encode_ne_empty offset, fun c => plain_of_mem_encode, decode_encode h,
    fun before after => decode_surrounded h⟩, fun token offset => decode_eq_iff, ?_⟩
  intro token hnone
  refine Nat.eq_zero_of_not_pos fun hpos => hnone ⟨decode token, carries_of_decode_pos hpos⟩

/-- The token of the offset 2, between blanks and with padding. -/
theorem codec_of_two :
    decode (String.ofList ([' '] ++ (encode 2).toList ++ ['\n'])) = 2 ∧
      Carries "b2Zmc2V0OjI" 2 ∧ decode "b2Zmc2V0OjI=" = 0 := by
  have hblank : ∀ c ∈ [' '], Text.isBlank c = true := List.forall_mem_singleton.mpr (by decide)
  have hbreak : ∀ c ∈ ['\n'], Text.isBlank c = true := List.forall_mem_singleton.mpr (by decide)
  refine ⟨(codec_exact.1 2 (by decide)).2.2.2 [' '] ['\n'] hblank hbreak,
    (codec_exact.2.1 "b2Zmc2V0OjI" 2 (by decide)).mp (by decide), codec_exact.2.2 _ ?_⟩
  rintro ⟨offset, sign, digits, -, -, -, -, -, hspells⟩
  have hrefused : Base64.decode? Base64.addressSafe (Text.trim "b2Zmc2V0OjI=".toList) = none := by
    decide
  cases hrefused.symm.trans (Base64.decode?_eq_some_iff.mpr hspells)

end Switchboard.Cursor
