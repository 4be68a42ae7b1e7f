import Switchboard.Proofs.Lists
import Switchboard.Text.Utf8

/-!
# UTF-8 read and written

Octets are read as a text exactly if they are the octets of that text (`decode?_eq_some_iff`): no
octets are the octets of two texts, an overlong form or half a surrogate pair is read as nothing,
and reading never stops early.

Both directions go through one character at a time. `decodeFuel_character` reads back what is
written for it; `octets_of_continue` goes from a lead and what continues it to the octets of the
character. The ranges of `Lead` enter in these two places only.
-/

namespace Switchboard.Text.Utf8

/-! ## Continuing a character -/

section

variable {count bits least most : Nat} {b : UInt8} {rest : List UInt8}

theorem continue_one (hleast : least ≤ b.toNat) (hmost : b.toNat ≤ most) :
    Lead.continue ⟨1, bits, least, most⟩ (b :: rest) =
      (some (bits * 64 + (b.toNat - 0x80)), 1) := by
  simp [Lead.continue, hleast, hmost]

theorem continue_more (hleast : least ≤ b.toNat) (hmost : b.toNat ≤ most) {value : Option Nat}
    {used : Nat}
    (h : Lead.continue ⟨count + 1, bits * 64 + (b.toNat - 0x80), 0x80, 0xBF⟩ rest = (value, used)) :
    Lead.continue ⟨count + 2, bits, least, most⟩ (b :: rest) = (value, used + 1) := by
  simp [Lead.continue, hleast, hmost, h]

theorem continue_of_not_range (h : ¬ (least ≤ b.toNat ∧ b.toNat ≤ most)) :
    Lead.continue ⟨count, bits, least, most⟩ (b :: rest) = (none, 0) := by
  rw [Lead.continue, if_neg (by simpa using h)]

theorem continue_one_eq_some {value used : Nat}
    (h : Lead.continue ⟨1, bits, least, most⟩ rest = (some value, used)) :
    ∃ b rest', rest = b :: rest' ∧ least ≤ b.toNat ∧ b.toNat ≤ most ∧
      value = bits * 64 + (b.toNat - 0x80) ∧ used = 1 := by
  cases rest with
  | nil => simp [Lead.continue] at h
  | cons b rest' =>
    by_cases hrange : least ≤ b.toNat ∧ b.toNat ≤ most
    · rw [continue_one hrange.1 hrange.2] at h
      obtain ⟨hvalue, hused⟩ := Prod.mk.inj h
      exact ⟨b, rest', rfl, hrange.1, hrange.2, (Option.some.inj hvalue).symm, hused.symm⟩
    · rw [continue_of_not_range hrange] at h
      cases h

theorem continue_more_eq_some {value used : Nat}
    (h : Lead.continue ⟨count + 2, bits, least, most⟩ rest = (some value, used)) :
    ∃ b rest' used', rest = b :: rest' ∧ least ≤ b.toNat ∧ b.toNat ≤ most ∧
      Lead.continue ⟨count + 1, bits * 64 + (b.toNat - 0x80), 0x80, 0xBF⟩ rest' =
        (some value, used') ∧ used = used' + 1 := by
  cases rest with
  | nil => simp [Lead.continue] at h
  | cons b rest' =>
    by_cases hrange : least ≤ b.toNat ∧ b.toNat ≤ most
    · rw [continue_more hrange.1 hrange.2 rfl] at h
      obtain ⟨hvalue, hused⟩ := Prod.mk.inj h
      exact ⟨b, rest', _, rfl, hrange.1, hrange.2, Prod.ext hvalue rfl, hused.symm⟩
    · rw [continue_of_not_range hrange] at h
      cases h

theorem toNat_octet {n : Nat} (h : n < 256) : (UInt8.ofNat n).toNat = n :=
  UInt8.toNat_ofNat_of_lt' h

theorem toNat_tail (n : Nat) : (UInt8.ofNat (n % 64 + 0x80)).toNat = n % 64 + 0x80 :=
  toNat_octet (by omega)

/-- The last octet of a character holds its last six bits. -/
theorem continue_last (n : Nat) :
    Lead.continue ⟨1, bits, 0x80, 0xBF⟩ (UInt8.ofNat (n % 64 + 0x80) :: rest) =
      (some (bits * 64 + n % 64), 1) := by
  rw [continue_one (by rw [toNat_tail]; omega) (by rw [toNat_tail]; omega), toNat_tail,
    Nat.add_sub_cancel]

theorem continue_tail {n : Nat} (hleast : least ≤ n % 64 + 0x80) (hmost : n % 64 + 0x80 ≤ most)
    {value : Option Nat} {used : Nat}
    (h : Lead.continue ⟨count + 1, bits * 64 + n % 64, 0x80, 0xBF⟩ rest = (value, used)) :
    Lead.continue ⟨count + 2, bits, least, most⟩ (UInt8.ofNat (n % 64 + 0x80) :: rest) =
      (value, used + 1) := by
  refine continue_more (by rwa [toNat_tail]) (by rwa [toNat_tail]) ?_
  rwa [toNat_tail, Nat.add_sub_cancel]

end

/-! ## First octets -/

theorem lead_two {v : Nat} (h : 0x80 ≤ v) (h' : v < 0x800) :
    Lead.ofOctet? (v / 64 + 0xC0) = some ⟨1, v / 64, 0x80, 0xBF⟩ := by
  rw [Lead.ofOctet?, if_pos (by simp only [Bool.and_eq_true, decide_eq_true_eq]; omega)]
  simp

/-- The second of three octets is in the range that the first one sets: code points below
0x800 have a shorter form, and surrogates none. -/
theorem lead_three {v : Nat} (h : 0x800 ≤ v) (h' : v < 0x10000)
    (hvalid : v < 0xD800 ∨ 0xDFFF < v) :
    ∃ least most, Lead.ofOctet? (v / 4096 + 0xE0) = some ⟨2, v / 4096, least, most⟩ ∧
      least ≤ v / 64 % 64 + 0x80 ∧ v / 64 % 64 + 0x80 ≤ most := by
  have hcases : v / 4096 = 0 ∨ v / 4096 = 13 ∨
      (v / 4096 ≠ 0 ∧ v / 4096 ≠ 13 ∧ v / 4096 < 16) := by omega
  rcases hcases with hlow | hsurrogate | ⟨hlow, hsurrogate, hlt⟩
  · exact ⟨0xA0, 0xBF, by rw [hlow]; rfl, by omega, by omega⟩
  · exact ⟨0x80, 0x9F, by rw [hsurrogate]; rfl, by omega, by omega⟩
  · refine ⟨0x80, 0xBF, ?_, by omega, by omega⟩
    simp only [Lead.ofOctet?, Bool.and_eq_true, decide_eq_true_eq]
    rw [if_neg (by omega), if_neg (by omega), if_neg (by omega), if_pos (by omega)]
    simp

/-- The same for the first of four octets, where code points below 0x10000 have a shorter form and
those from 0x110000 on are none. -/
theorem lead_four {v : Nat} (h : 0x10000 ≤ v) (h' : v < 0x110000) :
    ∃ least most, Lead.ofOctet? (v / 262144 + 0xF0) = some ⟨3, v / 262144, least, most⟩ ∧
      least ≤ v / 4096 % 64 + 0x80 ∧ v / 4096 % 64 + 0x80 ≤ most := by
  have hcases : v / 262144 = 0 ∨ v / 262144 = 4 ∨
      (v / 262144 ≠ 0 ∧ v / 262144 < 4) := by omega
  rcases hcases with hlow | hhigh | ⟨hlow, hlt⟩
  · exact ⟨0x90, 0xBF, by rw [hlow]; rfl, by omega, by omega⟩
  · exact ⟨0x80, 0x8F, by rw [hhigh]; rfl, by omega, by omega⟩
  · refine ⟨0x80, 0xBF, ?_, by omega, by omega⟩
    simp only [Lead.ofOctet?, Bool.and_eq_true, decide_eq_true_eq]
    rw [if_neg (by omega), if_neg (by omega), if_neg (by omega), if_neg (by omega),
      if_neg (by omega), if_pos (by omega)]
    simp

/-- Between them a first octet and the range of the second leave out what has a shorter form or
none at all. -/
theorem ofOctet?_eq_some {n count bits least most : Nat}
    (h : Lead.ofOctet? n = some ⟨count, bits, least, most⟩) :
    0x80 ≤ least ∧ most ≤ 0xBF ∧
      (count = 1 ∧ n = bits + 0xC0 ∧ 2 ≤ bits ∧ bits < 32 ∨
        count = 2 ∧ n = bits + 0xE0 ∧ bits < 16 ∧ (0 < bits ∨ 0xA0 ≤ least) ∧
          (bits ≠ 13 ∨ most ≤ 0x9F) ∨
        count = 3 ∧ n = bits + 0xF0 ∧ bits ≤ 4 ∧ (0 < bits ∨ 0x90 ≤ least) ∧
          (bits < 4 ∨ most ≤ 0x8F)) := by
  simp only [Lead.ofOctet?, Bool.and_eq_true, decide_eq_true_eq] at h
  repeat' split at h
  all_goals
    simp only [Option.some.injEq, Lead.mk.injEq, reduceCtorEq] at h
  all_goals omega

/-! ## One character -/

theorem decodeFuel_ascii {b : UInt8} (h : b.toNat < 0x80) (fuel : Nat) (rest : List UInt8) :
    decodeFuel (fuel + 1) (b :: rest) = some (Char.ofNat b.toNat) :: decodeFuel fuel rest := by
  rw [decodeFuel, if_pos h]

theorem decodeFuel_lead {b : UInt8} {lead : Lead} {value : Option Nat} {used : Nat}
    {rest : List UInt8} (h : 0x80 ≤ b.toNat) (hlead : Lead.ofOctet? b.toNat = some lead)
    (hcontinue : lead.continue rest = (value, used)) (fuel : Nat) :
    decodeFuel (fuel + 1) (b :: rest) =
      value.map Char.ofNat :: decodeFuel fuel (rest.drop used) := by
  rw [decodeFuel, if_neg (by omega), hlead]
  simp only [hcontinue]

theorem decodeFuel_cons_ne_nil {fuel : Nat} {b : UInt8} {rest : List UInt8} :
    decodeFuel (fuel + 1) (b :: rest) ≠ [] := by
  rw [decodeFuel]
  split
  · exact List.cons_ne_nil _ _
  · split <;> exact List.cons_ne_nil _ _

/-- A code point is no surrogate and not beyond the last plane. -/
theorem toNat_valid (c : Char) : c.toNat < 0xD800 ∨ 0xDFFF < c.toNat ∧ c.toNat < 0x110000 := c.valid

/-- A character in front of octets is the first one that is read. -/
theorem decodeFuel_character (c : Char) (fuel : Nat) (rest : List UInt8) :
    decodeFuel (fuel + 1) (String.utf8EncodeChar c ++ rest) = some c :: decodeFuel fuel rest := by
  have hvalid := toNat_valid c
  have hchar : Char.ofNat c.toNat = c := Char.ofNat_toNat c
  simp only [String.utf8EncodeChar, show c.val.toNat = c.toNat from rfl]
  generalize c.toNat = v at hvalid hchar ⊢
  -- one octet, two, three or four
  split
  · have hb : (UInt8.ofNat v).toNat = v := toNat_octet (by omega)
    rw [List.singleton_append, decodeFuel_ascii (by omega), hb, hchar]
  · split
    · have hb : (UInt8.ofNat (v / 64 % 32 + 0xC0)).toNat = v / 64 + 0xC0 := by
        rw [toNat_octet (by omega)]; omega
      have hlead := lead_two (v := v) (by omega) (by omega)
      rw [List.cons_append, List.singleton_append,
        decodeFuel_lead (by omega) (hb ▸ hlead) (continue_last v),
        show v / 64 * 64 + v % 64 = v by omega]
      simp [hchar]
    · split
      · obtain ⟨least, most, hlead, hleast, hmost⟩ :=
          lead_three (v := v) (by omega) (by omega) (by omega)
        have hb : (UInt8.ofNat (v / 4096 % 16 + 0xE0)).toNat = v / 4096 + 0xE0 := by
          rw [toNat_octet (by omega)]; omega
        rw [List.cons_append, List.cons_append, List.singleton_append,
          decodeFuel_lead (by omega) (hb ▸ hlead) (continue_tail hleast hmost (continue_last v)),
          show (v / 4096 * 64 + v / 64 % 64) * 64 + v % 64 = v by omega]
        simp [hchar]
      · obtain ⟨least, most, hlead, hleast, hmost⟩ := lead_four (v := v) (by omega) (by omega)
        have hb : (UInt8.ofNat (v / 262144 % 8 + 0xF0)).toNat = v / 262144 + 0xF0 := by
          rw [toNat_octet (by omega)]; omega
        rw [List.cons_append, List.cons_append, List.cons_append, List.singleton_append,
          decodeFuel_lead (by omega) (hb ▸ hlead) (continue_tail hleast hmost
            (continue_tail (by omega) (by omega) (continue_last v))),
          show ((v / 262144 * 64 + v / 4096 % 64) * 64 + v / 64 % 64) * 64 + v % 64 = v by omega]
        simp [hchar]

theorem toNat_ofNat {v : Nat} (h : v < 0xD800 ∨ 0xDFFF < v ∧ v < 0x110000) :
    (Char.ofNat v).val.toNat = v := by
  have hvalid : v.isValidChar := h
  rw [Char.ofNat, dif_pos hvalid]
  rfl

/-- Octets that a lead and what continues it are made of are the octets of the character. -/
theorem octets_of_continue {b : UInt8} {lead : Lead} (hlead : Lead.ofOctet? b.toNat = some lead)
    {rest : List UInt8} {v used : Nat} (h : lead.continue rest = (some v, used)) :
    b :: rest = String.utf8EncodeChar (Char.ofNat v) ++ rest.drop used := by
  have hoctet : ∀ {n : Nat} {b : UInt8}, n = b.toNat → UInt8.ofNat n = b := fun hn => by
    rw [hn, UInt8.ofNat_toNat]
  obtain ⟨count, bits, least, most⟩ := lead
  obtain ⟨hlow, hhigh, hkind⟩ := ofOctet?_eq_some hlead
  -- two octets, three or four; the ranges decide which branch of the encoder `v` takes
  rcases hkind with ⟨rfl, hb, hrange⟩ | ⟨rfl, hb, hrange⟩ | ⟨rfl, hb, hrange⟩
  · obtain ⟨b₂, rest₂, rfl, hleast, hmost, hv, rfl⟩ := continue_one_eq_some h
    have hchar : (Char.ofNat v).val.toNat = v := toNat_ofNat (by omega)
    rw [String.utf8EncodeChar, hchar, if_neg (by omega), if_pos (by omega),
      hoctet (b := b) (by omega), hoctet (b := b₂) (by omega)]
    rfl
  · obtain ⟨b₂, rest₂, used₂, rfl, hleast₂, hmost₂, h₂, rfl⟩ := continue_more_eq_some h
    obtain ⟨b₃, rest₃, rfl, hleast₃, hmost₃, hv, rfl⟩ := continue_one_eq_some h₂
    have hchar : (Char.ofNat v).val.toNat = v := toNat_ofNat (by omega)
    rw [String.utf8EncodeChar, hchar, if_neg (by omega), if_neg (by omega), if_pos (by omega),
      hoctet (b := b) (by omega), hoctet (b := b₂) (by omega), hoctet (b := b₃) (by omega)]
    rfl
  · obtain ⟨b₂, rest₂, used₂, rfl, hleast₂, hmost₂, h₂, rfl⟩ := continue_more_eq_some h
    obtain ⟨b₃, rest₃, used₃, rfl, hleast₃, hmost₃, h₃, rfl⟩ := continue_more_eq_some h₂
    obtain ⟨b₄, rest₄, rfl, hleast₄, hmost₄, hv, rfl⟩ := continue_one_eq_some h₃
    have hchar : (Char.ofNat v).val.toNat = v := toNat_ofNat (by omega)
    rw [String.utf8EncodeChar, hchar, if_neg (by omega), if_neg (by omega), if_neg (by omega),
      hoctet (b := b) (by omega), hoctet (b := b₂) (by omega), hoctet (b := b₃) (by omega),
      hoctet (b := b₄) (by omega)]
    rfl

theorem octets_of_decodeFuel {fuel : Nat} {b : UInt8} {rest : List UInt8} {c : Char}
    {later : List (Option Char)} (h : decodeFuel (fuel + 1) (b :: rest) = some c :: later) :
    ∃ rest', b :: rest = String.utf8EncodeChar c ++ rest' ∧ rest'.length ≤ rest.length ∧
      decodeFuel fuel rest' = later := by
  rw [decodeFuel] at h
  split at h
  · next hascii =>
    obtain ⟨hc, hlater⟩ := List.cons.inj h
    obtain rfl := Option.some.inj hc
    refine ⟨rest, ?_, Nat.le_refl _, hlater⟩
    rw [String.utf8EncodeChar, toNat_ofNat (by omega), if_pos (by omega), UInt8.ofNat_toNat]
    rfl
  · split at h
    · cases (List.cons.inj h).1
    · next lead hlead =>
      cases hcontinue : lead.continue rest with
      | mk value used =>
        rw [hcontinue] at h
        obtain ⟨hc, hlater⟩ := List.cons.inj h
        obtain ⟨v, rfl, rfl⟩ := Option.map_eq_some_iff.mp hc
        refine ⟨rest.drop used, octets_of_continue hlead hcontinue, ?_, hlater⟩
        rw [List.length_drop]
        omega

/-! ## Texts -/

theorem encode_cons (c : Char) (cs : List Char) :
    encode (c :: cs) = String.utf8EncodeChar c ++ encode cs := List.flatMap_cons

theorem length_le_encode (cs : List Char) : cs.length ≤ (encode cs).length := by
  induction cs with
  | nil => exact Nat.le_refl 0
  | cons c rest ih =>
    have hpos := c.utf8Size_pos
    rw [encode_cons, List.length_append, String.length_utf8EncodeChar, List.length_cons]
    omega

theorem decodeFuel_encode {fuel : Nat} {cs : List Char} (h : cs.length ≤ fuel) :
    decodeFuel fuel (encode cs) = cs.map some := by
  induction cs generalizing fuel with
  | nil => cases fuel <;> rfl
  | cons c rest ih =>
    cases fuel with
    | zero => cases h
    | succ fuel =>
      rw [encode_cons, decodeFuel_character, ih (Nat.le_of_succ_le_succ h), List.map_cons]

theorem eq_encode_of_decodeFuel {fuel : Nat} {bytes : List UInt8} {cs : List Char}
    (hfuel : bytes.length ≤ fuel) (h : decodeFuel fuel bytes = cs.map some) :
    bytes = encode cs := by
  induction fuel generalizing bytes cs with
  | zero =>
    obtain rfl := List.length_eq_zero_iff.mp (Nat.le_zero.mp hfuel)
    cases cs with
    | nil => rfl
    | cons c rest => cases h
  | succ fuel ih =>
    cases bytes with
    | nil =>
      cases cs with
      | nil => rfl
      | cons c rest => cases h
    | cons b rest =>
      cases cs with
      | nil => exact absurd h decodeFuel_cons_ne_nil
      | cons c cs =>
        obtain ⟨rest', hoctets, hle, hlater⟩ := octets_of_decodeFuel h
        have hrest : rest' = encode cs :=
          ih (Nat.le_trans hle (Nat.le_of_succ_le_succ hfuel)) hlater
        rw [hoctets, encode_cons, hrest]

theorem mapM_id_eq_some_iff {α : Type} {parts : List (Option α)} {xs : List α} :
    parts.mapM id = some xs ↔ parts = xs.map some := by
  induction parts generalizing xs with
  | nil => cases xs <;> simp
  | cons part rest ih =>
    cases part with
    | none => cases xs <;> simp
    | some x =>
      rw [List.mapM_cons, id, Option.bind_eq_bind, Option.bind_some, Option.bind_eq_bind,
        Option.bind_eq_some_iff]
      simp only [ih]
      cases xs with
      | nil => simp
      | cons y ys => simp [and_comm, and_assoc]

/-- Octets are read as a text exactly if they are its octets. -/
theorem decode?_eq_some_iff {bytes : List UInt8} {cs : List Char} :
    decode? bytes = some cs ↔ bytes = encode cs := by
  rw [decode?, mapM_id_eq_some_iff, decodeParts]
  refine ⟨eq_encode_of_decodeFuel (Nat.le_refl _), fun h => ?_⟩
  rw [h, decodeFuel_encode (length_le_encode cs)]

theorem decode?_encode (cs : List Char) : decode? (encode cs) = some cs :=
  decode?_eq_some_iff.mpr rfl

/-- Nothing is replaced in the octets of a text. -/
theorem decodeLenient_encode (cs : List Char) : decodeLenient (encode cs) = cs := by
  rw [decodeLenient, decodeParts, decodeFuel_encode (length_le_encode cs), List.map_map]
  exact List.map_id cs

theorem encode_ascii {cs : List Char} (h : ∀ c ∈ cs, c.toNat < 0x80) :
    encode cs = cs.map fun c => UInt8.ofNat c.toNat := by
  induction cs with
  | nil => rfl
  | cons c rest ih =>
    have hc : c.val.toNat ≤ 0x7F := Nat.le_of_lt_succ (h c List.mem_cons_self)
    rw [encode_cons, ih fun d hd => h d (List.mem_cons_of_mem _ hd), String.utf8EncodeChar,
      if_pos hc, List.singleton_append, List.map_cons]
    rfl

/-! ## Line breaks -/

/-- The octet of a line break is part of no other character. -/
theorem not_mem_character {c : Char} (h : c ≠ '\n') : (10 : UInt8) ∉ String.utf8EncodeChar c := by
  have hne : c.val.toNat ≠ 10 := fun heq => h (Char.ext (UInt32.toNat_inj.mp heq))
  have hoctet : ∀ n, n < 256 → n ≠ 10 → (10 : UInt8) ≠ UInt8.ofNat n := fun n hn hne heq =>
    hne (by rw [← toNat_octet hn, ← heq]; rfl)
  rw [String.utf8EncodeChar]
  split
  · simp only [List.mem_singleton]
    exact hoctet _ (by omega) hne
  · split
    · simp only [List.mem_cons, List.not_mem_nil, or_false, not_or]
      exact ⟨hoctet _ (by omega) (by omega), hoctet _ (by omega) (by omega)⟩
    · split
      · simp only [List.mem_cons, List.not_mem_nil, or_false, not_or]
        exact ⟨hoctet _ (by omega) (by omega), hoctet _ (by omega) (by omega),
          hoctet _ (by omega) (by omega)⟩
      · simp only [List.mem_cons, List.not_mem_nil, or_false, not_or]
        exact ⟨hoctet _ (by omega) (by omega), hoctet _ (by omega) (by omega),
          hoctet _ (by omega) (by omega), hoctet _ (by omega) (by omega)⟩

/-- The lines of the octets of a text are the octets of its lines. -/
theorem splitOn_encode (cs : List Char) :
    (encode cs).splitOn 10 = (cs.splitOn '\n').map encode := by
  have hbreak : String.utf8EncodeChar '\n' = [10] := rfl
  exact splitOn_flatMap hbreak fun _ _ hne => not_mem_character hne

end Switchboard.Text.Utf8
