import Mathlib.Data.List.TakeDrop
import Mathlib.Data.List.TakeWhile
import Switchboard.Http.ContentType
import Switchboard.Proofs.Utf8
import Switchboard.Text.Charset

/-!
# What octets of any kind are read as

Octets that are no text are read all the same. In UTF-8 what is read is settled by the octets of
characters alone (`Lossy`): a character stands for its octets, and a replacement for a stray part,
which is as long as it can be while still the start of a character. Octets are read in exactly one
such way, and the reader finds it (`lossy_iff`).

`IsTextOf` adds the charset and the byte order mark. The text of octets is what the reader makes of
them (`isTextOf_iff`), and a text comes out of its own octets again, in UTF-8 (`decodeMarked_encode`)
and in UTF-16 (`decodePairs_encodePairs`). The label of the charset is the one that the content type
declares (`charsetLabel?_declared`).
-/

namespace Switchboard.Text

namespace Utf8

/-! ## Stray octets -/

/-- Some character starts with the octets. -/
def StartsCharacter (part : List UInt8) : Prop :=
  ∃ c : Char, part <+: String.utf8EncodeChar c

/-- Octets in front of others that one replacement stands for: no character starts here, and what is
taken together is one octet or the start of a character, and could not be more. -/
structure IsStray (part rest : List UInt8) : Prop where
  nonempty : part ≠ []
  foreign : ∀ c : Char, ¬ String.utf8EncodeChar c <+: part ++ rest
  start : part.length = 1 ∨ StartsCharacter part
  longest : ∀ longer, longer <+: part ++ rest → part.length < longer.length →
    ¬ StartsCharacter longer

/-- Octets are read as a text: characters for their octets, and a replacement for each stray part. -/
inductive Lossy : List UInt8 → List Char → Prop
  | nil : Lossy [] []
  | character {rest : List UInt8} {text : List Char} (c : Char) (hrest : Lossy rest text) :
    Lossy (String.utf8EncodeChar c ++ rest) (c :: text)
  | stray {part rest : List UInt8} {text : List Char} (hpart : IsStray part rest)
      (hrest : Lossy rest text) :
    Lossy (part ++ rest) (replacement :: text)

theorem utf8EncodeChar_ne_nil (c : Char) : String.utf8EncodeChar c ≠ [] :=
  List.ne_nil_of_length_pos (by rw [String.length_utf8EncodeChar]; exact c.utf8Size_pos)

/-- At most one character starts somewhere. -/
theorem eq_of_utf8EncodeChar_append {c d : Char} {rest rest' : List UInt8}
    (h : String.utf8EncodeChar c ++ rest = String.utf8EncodeChar d ++ rest') : c = d := by
  have hc := decodeFuel_character c 0 rest
  rw [h, decodeFuel_character] at hc
  exact (Option.some.inj (List.cons.inj hc).1).symm

/-- So do the octets of a stray part. -/
theorem IsStray.length_le {part rest part' rest' : List UInt8} (h : IsStray part rest)
    (h' : IsStray part' rest') (heq : part ++ rest = part' ++ rest') :
    part'.length ≤ part.length := by
  by_contra hlt
  have hlonger := h.longest part' (heq ▸ List.prefix_append _ _) (Nat.lt_of_not_le hlt)
  rcases h'.start with hone | hstart
  · have hpos := List.length_pos_iff.mpr h.nonempty
    omega
  · exact hlonger hstart

theorem Lossy.unique {bytes : List UInt8} {text text' : List Char} (h : Lossy bytes text)
    (h' : Lossy bytes text') : text = text' := by
  induction h generalizing text' with
  | nil =>
    generalize hbytes : ([] : List UInt8) = bytes at h'
    cases h' with
    | nil => rfl
    | character c hrest => exact absurd (List.nil_eq_append_iff.mp hbytes).1 (utf8EncodeChar_ne_nil c)
    | stray hpart hrest => exact absurd (List.nil_eq_append_iff.mp hbytes).1 hpart.nonempty
  | @character rest text c hrest ih =>
    generalize hbytes : String.utf8EncodeChar c ++ rest = bytes at h'
    cases h' with
    | nil => exact absurd (List.append_eq_nil_iff.mp hbytes).1 (utf8EncodeChar_ne_nil c)
    | character d hrest' =>
      obtain rfl := eq_of_utf8EncodeChar_append hbytes
      obtain rfl := List.append_cancel_left hbytes
      rw [ih hrest']
    | stray hpart hrest' =>
      exact absurd (hbytes ▸ List.prefix_append _ _) (hpart.foreign c)
  | @stray part rest text hpart hrest ih =>
    generalize hbytes : part ++ rest = bytes at h'
    cases h' with
    | nil => exact absurd (List.append_eq_nil_iff.mp hbytes).1 hpart.nonempty
    | character c hrest' =>
      exact absurd (hbytes.symm ▸ List.prefix_append _ _) (hpart.foreign c)
    | stray hpart' hrest' =>
      have hlength := Nat.le_antisymm (hpart'.length_le hpart hbytes.symm)
        (hpart.length_le hpart' hbytes)
      obtain ⟨-, rfl⟩ := List.append_inj hbytes hlength
      rw [ih hrest']

/-! ## The start of a character -/

theorem range_of_ofOctet? {n : Nat} {l : Lead} (h : Lead.ofOctet? n = some l) :
    l.count ≠ 0 ∧ l.least ≤ l.most ∧ l.most < 256 := by
  simp only [Lead.ofOctet?, Bool.and_eq_true, decide_eq_true_eq] at h
  repeat' split at h
  all_goals cases h
  all_goals exact ⟨by simp, by simp, by simp⟩

section

variable {count bits least most : Nat}

/-- Any lead can be continued. -/
theorem exists_continue (hle : least ≤ most) (hmost : most < 256) :
    ∃ more v, Lead.continue ⟨count + 1, bits, least, most⟩ more = (some v, more.length) := by
  induction count generalizing bits least most with
  | zero =>
    have hoctet : (UInt8.ofNat least).toNat = least := toNat_octet (by omega)
    exact ⟨[UInt8.ofNat least], _, continue_one (by omega) (by omega)⟩
  | succ count ih =>
    have hoctet : (UInt8.ofNat least).toNat = least := toNat_octet (by omega)
    have hlater (bits : Nat) : ∃ more v,
        Lead.continue ⟨count + 1, bits, 0x80, 0xBF⟩ more = (some v, more.length) :=
      ih (by decide) (by decide)
    obtain ⟨more, v, hmore⟩ := hlater _
    exact ⟨UInt8.ofNat least :: more, v, continue_more (by omega) (by omega) hmore⟩

/-- Where octets do not continue a character, the first one does not fit, or it does and those after
it do not continue what is left. -/
theorem continue_eq_none {rest : List UInt8} {used : Nat}
    (h : Lead.continue ⟨count + 1, bits, least, most⟩ rest = (none, used)) :
    used = 0 ∨ ∃ b rest' count' used', rest = b :: rest' ∧ least ≤ b.toNat ∧ b.toNat ≤ most ∧
      count = count' + 1 ∧ used = used' + 1 ∧
      Lead.continue ⟨count' + 1, bits * 64 + (b.toNat - 0x80), 0x80, 0xBF⟩ rest' =
        (none, used') := by
  cases rest with
  | nil => exact .inl (Prod.mk.inj h).2.symm
  | cons b rest' =>
    by_cases hrange : least ≤ b.toNat ∧ b.toNat ≤ most
    · cases count with
      | zero =>
        rw [continue_one hrange.1 hrange.2] at h
        cases h
      | succ count' =>
        rw [continue_more hrange.1 hrange.2 rfl] at h
        obtain ⟨hnone, rfl⟩ := Prod.mk.inj h
        exact .inr ⟨b, rest', count', _, rfl, hrange.1, hrange.2, rfl, rfl, Prod.ext hnone rfl⟩
    · rw [continue_of_not_range hrange] at h
      exact .inl (Prod.mk.inj h).2.symm

/-- What fits so far can be continued. -/
theorem exists_continue_take (hle : least ≤ most) (hmost : most < 256) {rest : List UInt8}
    {used : Nat} (h : Lead.continue ⟨count + 1, bits, least, most⟩ rest = (none, used)) :
    ∃ more v, Lead.continue ⟨count + 1, bits, least, most⟩ (rest.take used ++ more) =
      (some v, (rest.take used ++ more).length) := by
  induction count generalizing bits least most rest used with
  | zero =>
    rcases continue_eq_none h with rfl | ⟨_, _, _, _, _, _, _, hcount, _⟩
    · simpa using exists_continue hle hmost
    · cases hcount
  | succ count ih =>
    rcases continue_eq_none h with rfl | ⟨b, rest', _, used', rfl, hleast, hb, hcount, rfl, h'⟩
    · simpa using exists_continue hle hmost
    · obtain rfl := Nat.succ.inj hcount
      obtain ⟨more, v, hmore⟩ := ih (by decide) (by decide) h'
      exact ⟨more, v, continue_more hleast hb hmore⟩

end

/-- Octets that continue a character fit as far as they go along with others that do not. -/
theorem length_le_used {count bits least most : Nat} {rest tail shared : List UInt8}
    {used used' v : Nat}
    (hnone : Lead.continue ⟨count + 1, bits, least, most⟩ rest = (none, used))
    (hsome : Lead.continue ⟨count + 1, bits, least, most⟩ tail = (some v, used'))
    (hrest : shared <+: rest) (htail : shared <+: tail) : shared.length ≤ used := by
  induction shared generalizing count bits least most rest tail used used' with
  | nil => exact Nat.zero_le _
  | cons b shared ih =>
    obtain ⟨more, rfl⟩ := hrest
    obtain ⟨more', rfl⟩ := htail
    rw [List.cons_append] at hnone hsome
    by_cases hrange : least ≤ b.toNat ∧ b.toNat ≤ most
    · cases count with
      | zero =>
        rw [continue_one hrange.1 hrange.2] at hnone
        cases hnone
      | succ count =>
        rw [continue_more hrange.1 hrange.2 rfl] at hnone hsome
        obtain ⟨hrestNone, rfl⟩ := Prod.mk.inj hnone
        obtain ⟨htailSome, -⟩ := Prod.mk.inj hsome
        have hlength := ih (Prod.ext hrestNone rfl) (Prod.ext htailSome rfl)
          (List.prefix_append _ _) (List.prefix_append _ _)
        exact Nat.succ_le_succ hlength
    · rw [continue_of_not_range hrange] at hsome
      cases hsome

/-! ## Reading any octets -/

/-- The octets of a character are a lead and what continues it, if the first one stands for nothing
alone. -/
theorem continue_of_utf8EncodeChar {c : Char} {b : UInt8} {tail : List UInt8}
    (h : String.utf8EncodeChar c = b :: tail) (hb : ¬ b.toNat < 0x80) :
    ∃ l v used, Lead.ofOctet? b.toNat = some l ∧ l.continue tail = (some v, used) := by
  have hread : decodeFuel 1 (b :: tail) = [some c] := by
    have hread := decodeFuel_character c 0 []
    rwa [List.append_nil, h] at hread
  rw [decodeFuel, if_neg hb] at hread
  split at hread
  · cases (List.cons.inj hread).1
  · next l hlead =>
    obtain ⟨v, hv, -⟩ := Option.map_eq_some_iff.mp (List.cons.inj hread).1
    exact ⟨l, v, _, hlead, Prod.ext hv rfl⟩

/-- A lead and what fits behind it are a stray part, if it is not continued. -/
theorem isStray_of_continue {b : UInt8} (hb : ¬ b.toNat < 0x80) {l : Lead}
    (hlead : Lead.ofOctet? b.toNat = some l) {rest : List UInt8} {used : Nat}
    (hnone : l.continue rest = (none, used))
    (hforeign : ∀ c : Char, ¬ String.utf8EncodeChar c <+: b :: rest) :
    IsStray (b :: rest.take used) (rest.drop used) := by
  obtain ⟨hcount, hle, hmost⟩ := range_of_ofOctet? hlead
  obtain ⟨count, bits, least, most⟩ := l
  obtain ⟨count, rfl⟩ := Nat.exists_eq_succ_of_ne_zero hcount
  have hwhole : b :: rest.take used ++ rest.drop used = b :: rest := by
    rw [List.cons_append, List.take_append_drop]
  refine ⟨List.cons_ne_nil _ _, by rwa [hwhole], .inr ?_, ?_⟩
  · obtain ⟨more, v, hmore⟩ := exists_continue_take hle hmost hnone
    have hoctets := octets_of_continue hlead hmore
    rw [List.drop_length, List.append_nil] at hoctets
    exact ⟨Char.ofNat v, hoctets ▸ ⟨more, by rw [List.cons_append]⟩⟩
  · rintro longer hlonger hlength ⟨c, hc⟩
    rw [hwhole] at hlonger
    cases longer with
    | nil => cases hlength
    | cons b' shared =>
      obtain ⟨rfl, hrest⟩ := List.cons_prefix_cons.mp hlonger
      obtain ⟨tail, htail⟩ := hc
      have hchar : String.utf8EncodeChar c = b' :: (shared ++ tail) := htail.symm
      obtain ⟨l, v, used', hl, hsome⟩ := continue_of_utf8EncodeChar hchar hb
      obtain rfl := Option.some.inj (hlead.symm.trans hl)
      have hshared := length_le_used hnone hsome hrest (List.prefix_append _ _)
      have hrestLength := hrest.length_le
      simp only [List.length_cons, List.length_take] at hlength
      omega

/-- Where no character is read, a stray part is passed over. -/
theorem isStray_of_decodeFuel {fuel : Nat} {b : UInt8} {rest : List UInt8}
    {later : List (Option Char)} (h : decodeFuel (fuel + 1) (b :: rest) = none :: later) :
    ∃ used, IsStray (b :: rest.take used) (rest.drop used) ∧
      decodeFuel fuel (rest.drop used) = later := by
  have hforeign (c : Char) : ¬ String.utf8EncodeChar c <+: b :: rest := by
    rintro ⟨after, hafter⟩
    rw [← hafter, decodeFuel_character] at h
    cases (List.cons.inj h).1
  rw [decodeFuel] at h
  split at h
  · cases (List.cons.inj h).1
  · next hb =>
    split at h
    · next hlead =>
      refine ⟨0, ⟨List.cons_ne_nil _ _, hforeign, .inl rfl, ?_⟩, (List.cons.inj h).2⟩
      rintro (_ | ⟨b', shared⟩) hlonger hlength ⟨c, tail, htail⟩
      · cases hlength
      · obtain ⟨rfl, -⟩ := List.cons_prefix_cons.mp hlonger
        have hchar : String.utf8EncodeChar c = b' :: (shared ++ tail) := htail.symm
        obtain ⟨l, _, _, hl, -⟩ := continue_of_utf8EncodeChar hchar hb
        cases hlead.symm.trans hl
    · next l hlead =>
      obtain ⟨hnone, hlater⟩ := List.cons.inj h
      exact ⟨_, isStray_of_continue hb hlead (Prod.ext (Option.map_eq_none_iff.mp hnone) rfl)
        hforeign, hlater⟩

/-- What is read of octets is what they are read as. -/
theorem lossy_decodeLenient (bytes : List UInt8) : Lossy bytes (decodeLenient bytes) := by
  have hfuel : ∀ (fuel : Nat) (bytes : List UInt8), bytes.length ≤ fuel →
      Lossy bytes ((decodeFuel fuel bytes).map fun c => c.getD replacement) := by
    intro fuel
    induction fuel with
    | zero =>
      intro bytes hlength
      obtain rfl := List.length_eq_zero_iff.mp (Nat.le_zero.mp hlength)
      exact .nil
    | succ fuel ih =>
      intro bytes hlength
      cases bytes with
      | nil => exact .nil
      | cons b rest =>
        have hrest := Nat.le_of_succ_le_succ hlength
        cases hread : decodeFuel (fuel + 1) (b :: rest) with
        | nil => exact absurd hread decodeFuel_cons_ne_nil
        | cons part later =>
          cases part with
          | some c =>
            obtain ⟨rest', hoctets, hle, rfl⟩ := octets_of_decodeFuel hread
            rw [hoctets]
            exact .character c (ih rest' (Nat.le_trans hle hrest))
          | none =>
            obtain ⟨used, hstray, rfl⟩ := isStray_of_decodeFuel hread
            have hle : (rest.drop used).length ≤ fuel := by
              rw [List.length_drop]
              omega
            have hlossy := Lossy.stray hstray (ih _ hle)
            rwa [List.cons_append, List.take_append_drop] at hlossy
  exact hfuel bytes.length bytes (Nat.le_refl _)

/-- Octets are read in one way, and so the reader reads them. -/
theorem lossy_iff {bytes : List UInt8} {text : List Char} :
    Lossy bytes text ↔ text = decodeLenient bytes :=
  ⟨fun h => h.unique (lossy_decodeLenient bytes), fun h => h ▸ lossy_decodeLenient bytes⟩

end Utf8

/-! ## UTF-16 -/

/-- The units of a character: one, or two surrogates. -/
def unitsOf (c : Char) : List Nat :=
  if c.toNat < 0x10000 then [c.toNat]
  else [0xD800 + (c.toNat - 0x10000) / 0x400, 0xDC00 + (c.toNat - 0x10000) % 0x400]

/-- The octets of a unit. -/
def ByteOrder.octets : ByteOrder → Nat → List UInt8
  | .highFirst, u => [UInt8.ofNat (u / 256), UInt8.ofNat (u % 256)]
  | .lowFirst, u => [UInt8.ofNat (u % 256), UInt8.ofNat (u / 256)]

/-- The octets of characters in UTF-16. -/
def encodePairs (order : ByteOrder) (cs : List Char) : List UInt8 :=
  (cs.flatMap unitsOf).flatMap order.octets

theorem units_octets (order : ByteOrder) {us : List Nat} (h : ∀ u ∈ us, u < 0x10000) :
    units order (us.flatMap order.octets) = (us, false) := by
  induction us with
  | nil => rfl
  | cons u rest ih =>
    have hu := h u List.mem_cons_self
    have hhigh : (UInt8.ofNat (u / 256)).toNat = u / 256 := Utf8.toNat_octet (by omega)
    have hlow : (UInt8.ofNat (u % 256)).toNat = u % 256 := Utf8.toNat_octet (by omega)
    have hunit : u / 256 * 256 + u % 256 = u := by omega
    rw [List.flatMap_cons]
    cases order
    · simp [ByteOrder.octets, units, ByteOrder.unit, hhigh, hlow, hunit,
        ih fun v hv => h v (List.mem_cons_of_mem _ hv)]
    · simp [ByteOrder.octets, units, ByteOrder.unit, hhigh, hlow, hunit,
        ih fun v hv => h v (List.mem_cons_of_mem _ hv)]

theorem lt_of_mem_unitsOf {c : Char} {u : Nat} (h : u ∈ unitsOf c) : u < 0x10000 := by
  have hvalid := Utf8.toNat_valid c
  rw [unitsOf] at h
  split at h
  · rw [List.mem_singleton.mp h]
    assumption
  · simp only [List.mem_cons, List.not_mem_nil, or_false] at h
    omega

theorem decodeUnits_unitsOf (c : Char) (rest : List Nat) :
    decodeUnits (unitsOf c ++ rest) = c :: decodeUnits rest := by
  have hvalid := Utf8.toNat_valid c
  have hchar : Char.ofNat c.toNat = c := Char.ofNat_toNat c
  generalize hn : c.toNat = n at hvalid hchar
  rw [unitsOf, hn]
  split
  · have hplain : ¬ (0xD800 ≤ n ∧ n < 0xE000) := by omega
    rw [List.singleton_append, decodeUnits.eq_def]
    simp [hplain, hchar]
  · have hsum : 0x10000 + (0xD800 + (n - 0x10000) / 0x400 - 0xD800) * 0x400 +
        (0xDC00 + (n - 0x10000) % 0x400 - 0xDC00) = n := by
      omega
    rw [List.cons_append, List.singleton_append, decodeUnits,
      if_pos (by simp only [Bool.and_eq_true, decide_eq_true_eq]; omega)]
    rw [if_pos (by simp only [Bool.and_eq_true, decide_eq_true_eq]; omega), hsum, hchar]

/-- A text comes out of its octets in UTF-16. -/
theorem decodePairs_encodePairs (order : ByteOrder) (cs : List Char) :
    decodePairs order (encodePairs order cs) = cs := by
  have hunits : ∀ u ∈ cs.flatMap unitsOf, u < 0x10000 := fun u hu => by
    obtain ⟨c, -, hc⟩ := List.mem_flatMap.mp hu
    exact lt_of_mem_unitsOf hc
  rw [decodePairs, encodePairs, units_octets order hunits]
  simp only [Bool.false_and, Bool.false_eq_true, if_false, List.append_nil]
  induction cs with
  | nil => rfl
  | cons c rest ih =>
    rw [List.flatMap_cons, decodeUnits_unitsOf,
      ih fun u hu => hunits u (List.flatMap_cons ▸ List.mem_append_right _ hu)]

/-! ## Charsets and marks -/

/-- No byte order mark stands in front of the octets. -/
def Unmarked (bytes : List UInt8) : Prop :=
  ¬ [0xEF, 0xBB, 0xBF] <+: bytes ∧ ¬ [0xFE, 0xFF] <+: bytes ∧ ¬ [0xFF, 0xFE] <+: bytes

/-- A text is what octets say that are declared to be in a charset: as the mark in front of them has
it, and where there is none, the charset. -/
inductive IsTextOf (charset : Charset) : List UInt8 → List Char → Prop
  | utf8Mark {rest : List UInt8} {text : List Char} (h : Utf8.Lossy rest text) :
    IsTextOf charset (0xEF :: 0xBB :: 0xBF :: rest) text
  | highFirstMark (rest : List UInt8) :
    IsTextOf charset (0xFE :: 0xFF :: rest) (decodePairs .highFirst rest)
  | lowFirstMark (rest : List UInt8) :
    IsTextOf charset (0xFF :: 0xFE :: rest) (decodePairs .lowFirst rest)
  | utf8 {bytes : List UInt8} {text : List Char} (hcharset : charset = .utf8)
      (hmark : Unmarked bytes) (h : Utf8.Lossy bytes text) :
    IsTextOf charset bytes text
  | utf16 {bytes : List UInt8} {order : ByteOrder} (hcharset : charset = .utf16 order)
      (hmark : Unmarked bytes) :
    IsTextOf charset bytes (decodePairs order bytes)
  | other {bytes : List UInt8} {decode : List UInt8 → List Char}
      (hcharset : charset = .other decode) (hmark : Unmarked bytes) :
    IsTextOf charset bytes (decode bytes)

theorem decodeMarked_of_unmarked {bytes : List UInt8} (h : Unmarked bytes) (charset : Charset) :
    decodeMarked charset bytes = charset.decode bytes := by
  obtain ⟨hutf8, hhigh, hlow⟩ := h
  unfold decodeMarked
  split
  · exact absurd ⟨_, rfl⟩ hutf8
  · exact absurd ⟨_, rfl⟩ hhigh
  · exact absurd ⟨_, rfl⟩ hlow
  · rfl

theorem isTextOf_decodeMarked (charset : Charset) (bytes : List UInt8) :
    IsTextOf charset bytes (decodeMarked charset bytes) := by
  by_cases hmark : Unmarked bytes
  · rw [decodeMarked_of_unmarked hmark]
    cases hcharset : charset with
    | utf8 => exact .utf8 rfl hmark (Utf8.lossy_decodeLenient bytes)
    | utf16 order => exact .utf16 rfl hmark
    | other decode => exact .other rfl hmark
  · simp only [Unmarked, not_and_or, not_not] at hmark
    rcases hmark with ⟨rest, rfl⟩ | ⟨rest, rfl⟩ | ⟨rest, rfl⟩
    · exact .utf8Mark (Utf8.lossy_decodeLenient rest)
    · exact .highFirstMark rest
    · exact .lowFirstMark rest

/-- Octets say one text, and so they are decoded. -/
theorem isTextOf_iff {charset : Charset} {bytes : List UInt8} {text : List Char} :
    IsTextOf charset bytes text ↔ text = decodeMarked charset bytes := by
  refine ⟨fun h => ?_, fun h => h ▸ isTextOf_decodeMarked charset bytes⟩
  cases h with
  | utf8Mark h => exact Utf8.lossy_iff.mp h
  | highFirstMark rest => rfl
  | lowFirstMark rest => rfl
  | utf8 hcharset hmark h =>
    subst hcharset
    rw [decodeMarked_of_unmarked hmark]
    exact Utf8.lossy_iff.mp h
  | utf16 hcharset hmark =>
    subst hcharset
    rw [decodeMarked_of_unmarked hmark]
    rfl
  | other hcharset hmark =>
    subst hcharset
    rw [decodeMarked_of_unmarked hmark]
    rfl

/-- Only a text that begins with the mark itself has a mark in front of its octets. -/
theorem unmarked_encode {text : List Char} (h : text.head? ≠ some '\uFEFF') :
    Unmarked (Utf8.encode text) := by
  cases text with
  | nil => simp [Unmarked, Utf8.encode]
  | cons c cs =>
    -- no character starts with either octet of the other two marks
    have hnone {b : UInt8} {tail : List UInt8} (hb : ¬ b.toNat < 0x80)
        (hlead : Utf8.Lead.ofOctet? b.toNat = none) : ¬ b :: tail <+: Utf8.encode (c :: cs) := by
      rintro ⟨rest, hrest⟩
      rw [Utf8.encode_cons, List.cons_append] at hrest
      obtain ⟨head, more, hchar⟩ := List.exists_cons_of_ne_nil (Utf8.utf8EncodeChar_ne_nil c)
      rw [hchar, List.cons_append] at hrest
      obtain ⟨rfl, -⟩ := List.cons.inj hrest
      obtain ⟨l, _, _, hl, -⟩ := Utf8.continue_of_utf8EncodeChar hchar hb
      cases hlead.symm.trans hl
    refine ⟨?_, hnone (by decide) (by decide), hnone (by decide) (by decide)⟩
    rintro ⟨rest, hrest⟩
    have hfirst : String.utf8EncodeChar '\uFEFF' ++ rest =
        String.utf8EncodeChar c ++ Utf8.encode cs := hrest.trans (Utf8.encode_cons c cs)
    exact h (congrArg some (Utf8.eq_of_utf8EncodeChar_append hfirst).symm)

/-- A text comes out of its octets in UTF-8. -/
theorem decodeMarked_encode {text : List Char} (h : text.head? ≠ some '\uFEFF') :
    decodeMarked .utf8 (Utf8.encode text) = text := by
  rw [decodeMarked_of_unmarked (unmarked_encode h)]
  exact Utf8.decodeLenient_encode text

end Switchboard.Text

namespace Switchboard.Http

/-! ## Declared charsets -/

section

variable {word rest : List Char}

/-- A word ends where a character stands that is none of its own. -/
theorem span_isNameChar (hword : ∀ c ∈ word, isNameChar c = true)
    (hrest : ∀ c ∈ rest.head?, isNameChar c = false) :
    (word ++ rest).span isNameChar = (word, rest) := by
  have hstop : rest.takeWhile isNameChar = [] ∧ rest.dropWhile isNameChar = rest := by
    cases rest with
    | nil => exact ⟨rfl, rfl⟩
    | cons c more => simp [hrest c rfl]
  rw [List.span_eq_takeWhile_dropWhile, List.takeWhile_append_of_pos hword,
    List.dropWhile_append_of_pos hword, hstop.1, hstop.2, List.append_nil]

theorem word?_append (hne : word ≠ []) (hword : ∀ c ∈ word, isNameChar c = true)
    (hrest : ∀ c ∈ rest.head?, isNameChar c = false) :
    word? (word ++ rest) = some (word, rest) := by
  rw [word?, span_isNameChar hword hrest]
  obtain ⟨c, more, rfl⟩ := List.exists_cons_of_ne_nil hne
  rfl

/-- A parameter without quotes at the end. -/
theorem parameter?_name {label : List Char} (hne : word ≠ [])
    (hword : ∀ c ∈ word, isNameChar c = true) (hlabel : ∀ c ∈ label, isNameChar c = true) :
    parameter? (word ++ '=' :: label) =
      some ((String.ofList (word.map Char.toLower), String.ofList label), []) := by
  have hequals : isNameChar '=' = false := by decide
  have hvalue : plainValue? label = some (label, []) := by
    have hspan : (label ++ []).span isNameChar = (label, []) := span_isNameChar hlabel nofun
    rw [List.append_nil] at hspan
    rw [plainValue?, hspan]
  rw [parameter?, word?_append hne hword (by simpa using hequals)]
  cases label with
  | nil => simp [hvalue]
  | cons c more =>
    have hc : c ≠ '"' := fun h => absurd (h ▸ hlabel c List.mem_cons_self) (by decide)
    simp only [Option.bind_eq_bind, Option.bind_some]
    split
    · next h => cases h; exact absurd rfl hc
    · next h => cases h; simp [hvalue]
    · next h => exact absurd rfl (h _)

/-- A parameter that stands alone behind a space. -/
theorem parametersFuel?_name {label : List Char} (hne : word ≠ [])
    (hword : ∀ c ∈ word, isNameChar c = true) (hlabel : ∀ c ∈ label, isNameChar c = true)
    (fuel : Nat) : parametersFuel? (fuel + 1) (' ' :: (word ++ '=' :: label)) =
      some [(String.ofList (word.map Char.toLower), String.ofList label)] := by
  have hparameter := parameter?_name hne hword hlabel
  obtain ⟨c, more, rfl⟩ := List.exists_cons_of_ne_nil hne
  have hc : c ≠ ' ' := fun h => absurd (h ▸ hword c List.mem_cons_self) (by decide)
  have hrest : parametersFuel? fuel [] = some [] := by cases fuel <;> rfl
  rw [List.cons_append] at hparameter
  simp [parametersFuel?, hc, hparameter, hrest]

end

theorem range_of_isNameChar {c : Char} (h : isNameChar c = true) :
    0x20 ≤ c.toNat ∧ c.toNat < 0x7F := by
  have hmarks : "!#$%&'*+-.^_`|~".toList.all
      (fun c => Nat.ble 0x20 c.toNat && Nat.ble c.toNat 0x7E) = true := by decide
  simp only [isNameChar, Bool.or_eq_true, List.contains_iff_mem] at h
  rcases h with h | h
  · have hc := range_of_isAlphanum h
    omega
  · have hc := List.all_eq_true.mp hmarks c h
    simp only [Bool.and_eq_true, Nat.ble_eq] at hc
    omega

/-- A charset that stands last in a content type, behind type and subtype, is found. -/
theorem charsetLabel?_declared {type subtype label : List Char}
    (htype : type ≠ []) (htypeName : ∀ c ∈ type, isNameChar c = true)
    (hsubtype : subtype ≠ []) (hsubtypeName : ∀ c ∈ subtype, isNameChar c = true)
    (hlabel : ∀ c ∈ label, isNameChar c = true) :
    charsetLabel? (String.ofList
        (type ++ '/' :: (subtype ++ ';' :: ' ' :: ("charset".toList ++ '=' :: label)))) =
      some (String.ofList label) := by
  have hplain : isPlainValue
      (type ++ '/' :: (subtype ++ ';' :: ' ' :: ("charset".toList ++ '=' :: label))) = true := by
    have hname {cs : List Char} (hcs : ∀ c ∈ cs, isNameChar c = true) : isPlainValue cs = true :=
      List.all_eq_true.mpr fun c hc => by simp [range_of_isNameChar (hcs c hc)]
    have hwords := And.intro (hname htypeName) (And.intro (hname hsubtypeName) (hname hlabel))
    simp only [isPlainValue] at hwords ⊢
    simp [hwords]
  have hparameters : parameters?
      (type ++ '/' :: (subtype ++ ';' :: ' ' :: ("charset".toList ++ '=' :: label))) =
      some [("charset", String.ofList label)] := by
    have hslash : isNameChar '/' = false := by decide
    have hsemicolon : isNameChar ';' = false := by decide
    rw [parameters?, word?_append htype htypeName (by simpa using hslash)]
    simp only [Option.bind_eq_bind, Option.bind_some]
    rw [span_isNameChar hsubtypeName (by simpa using hsemicolon)]
    obtain ⟨c, more, rfl⟩ := List.exists_cons_of_ne_nil hsubtype
    exact parametersFuel?_name (by decide) (List.all_eq_true.mp (by decide)) hlabel _
  rw [charsetLabel?, String.toList_ofList, if_pos hplain, hparameters]
  rfl

end Switchboard.Http
