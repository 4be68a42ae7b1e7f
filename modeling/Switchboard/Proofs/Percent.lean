import Switchboard.Percent

/-!
# Percent encoding undone

What is written for a character is the character itself or made of percent signs, digits and letters
(`mem_encodeChar`), so a character that is not kept and none of these cannot come in by encoding
(`not_mem_encode`). The octets of a character are read back (`decode_octets`).
-/

namespace Switchboard.Percent

theorem value?_digit : ∀ n < 16, value? (digit n) = some n := by decide

theorem isAlphanum_digit : ∀ n < 16, (digit n).isAlphanum = true := by decide

/-! ## What is written -/

theorem encode_eq_self {keep : Char → Bool} {cs : List Char}
    (h : ∀ c ∈ cs, keep c = true) : encode keep cs = cs := by
  induction cs with
  | nil => rfl
  | cons c rest ih =>
    rw [encode, List.flatMap_cons, encodeChar, if_pos (h c List.mem_cons_self), ← encode,
      ih fun d hd => h d (List.mem_cons_of_mem _ hd), List.singleton_append]

theorem isAlphanum_of_mem_octet {b : UInt8} {c : Char} (h : c ∈ octet b) :
    c = '%' ∨ c.isAlphanum = true := by
  have hb : b.toNat < 256 := b.toNat_lt
  simp only [octet, List.mem_cons, List.not_mem_nil, or_false] at h
  rcases h with rfl | rfl | rfl
  · exact .inl rfl
  · exact .inr (isAlphanum_digit _ (by omega))
  · exact .inr (isAlphanum_digit _ (by omega))

theorem mem_encodeChar {keep : Char → Bool} {c d : Char} (h : d ∈ encodeChar keep c) :
    keep d = true ∨ d = '%' ∨ d.isAlphanum = true := by
  unfold encodeChar at h
  split at h
  · next hkeep => exact .inl (List.mem_singleton.mp h ▸ hkeep)
  · obtain ⟨b, -, hd⟩ := List.mem_flatMap.mp h
    exact .inr (isAlphanum_of_mem_octet hd)

theorem not_mem_encode {keep : Char → Bool} {c : Char} (hkeep : keep c = false)
    (hc : c ≠ '%' ∧ c.isAlphanum = false) (cs : List Char) : c ∉ encode keep cs := fun hmem => by
  obtain ⟨d, -, hd⟩ := List.mem_flatMap.mp hmem
  rcases mem_encodeChar hd with hkept | hpercent | halnum
  · exact Bool.false_ne_true (hkeep.symm.trans hkept)
  · exact hc.1 hpercent
  · exact Bool.false_ne_true (hc.2.symm.trans halnum)

/-! ## What is read -/

theorem decode_octet (b : UInt8) (rest : List Char) :
    decode (octet b ++ rest) = b :: decode rest := by
  have hb : b.toNat < 256 := b.toNat_lt
  have hhigh := value?_digit (b.toNat / 16) (by omega)
  have hlow := value?_digit (b.toNat % 16) (by omega)
  simp only [octet, List.cons_append, List.nil_append]
  rw [decode, hhigh, hlow]
  simp only [Nat.div_add_mod', UInt8.ofNat_toNat]

theorem decode_octets (bs : List UInt8) (rest : List Char) :
    decode (bs.flatMap octet ++ rest) = bs ++ decode rest := by
  induction bs with
  | nil => rfl
  | cons b bs ih =>
    rw [List.flatMap_cons, List.append_assoc, decode_octet, ih, List.cons_append]

theorem decode_cons {c : Char} (hc : c ≠ '%') (rest : List Char) :
    decode (c :: rest) = String.utf8EncodeChar c ++ decode rest := by
  rw [decode]
  exact fun _ _ _ heq _ => hc heq

end Switchboard.Percent
