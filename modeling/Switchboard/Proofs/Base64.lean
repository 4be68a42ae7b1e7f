import Mathlib.Algebra.Group.Nat.Defs
import Switchboard.Base64

/-!
# Base 64 as bits

Base 64 regroups bits: octets give eight each, digits take six each, and what the last digit has
room for beyond the octets is zero. `Spells` says this and nothing else, so a text that is
not as long as it has to be, that holds a foreign character or a filling, or that has a bit set in
the unused part of its last digit, spells no octets.

The main statement is `decode?_eq_some_iff`: what is read is what the text spells. As no two texts
spell the same octets (`Spells.unique`), the text that is written is the only one that is read.

The standard form has other characters for two of the digits and is filled up to groups of four
(`SpellsFilled`); it too is the only one (`spellsFilled_iff`).
-/

namespace Switchboard.Base64

/-! ## Bits -/

/-- The lowest `width` bits of a number, the highest of them first. -/
def bits : Nat → Nat → List Bool
  | 0, _ => []
  | width + 1, n => n.testBit width :: bits width n

@[simp] theorem length_bits (width n : Nat) : (bits width n).length = width := by
  induction width with
  | zero => rfl
  | succ width ih => rw [bits, List.length_cons, ih]

theorem bits_add (u v n : Nat) : bits (u + v) n = bits u (n / 2 ^ v) ++ bits v n := by
  induction u with
  | zero => rw [Nat.zero_add, bits, List.nil_append]
  | succ u ih =>
    rw [Nat.succ_add, bits, ih, bits, List.cons_append, Nat.testBit_div_two_pow]

theorem bits_mod {width bound : Nat} (h : width ≤ bound) (n : Nat) :
    bits width (n % 2 ^ bound) = bits width n := by
  induction width with
  | zero => rfl
  | succ width ih =>
    have hlt : width < bound := h
    rw [bits, bits, ih (Nat.le_of_succ_le h), Nat.testBit_mod_two_pow, decide_eq_true hlt,
      Bool.true_and]

theorem bits_of_mod_eq_zero {width n : Nat} (h : n % 2 ^ width = 0) :
    bits width n = List.replicate width false := by
  rw [← bits_mod (Nat.le_refl width), h]
  clear h
  induction width with
  | zero => rfl
  | succ width ih => rw [bits, ih, Nat.zero_testBit, List.replicate_succ]

theorem testBit_eq_of_bits_eq {width m n : Nat} (h : bits width m = bits width n) :
    ∀ i < width, m.testBit i = n.testBit i := by
  induction width with
  | zero => exact fun i hi => absurd hi (Nat.not_lt_zero i)
  | succ width ih =>
    intro i hi
    rw [bits, bits] at h
    obtain ⟨hhead, htail⟩ := List.cons.inj h
    rcases Nat.lt_succ_iff_lt_or_eq.mp hi with hlt | rfl
    · exact ih htail i hlt
    · exact hhead

theorem eq_of_bits_eq {width m n : Nat} (hm : m < 2 ^ width) (hn : n < 2 ^ width)
    (h : bits width m = bits width n) : m = n := by
  refine Nat.eq_of_testBit_eq fun i => ?_
  rcases Nat.lt_or_ge i width with hlt | hge
  · exact testBit_eq_of_bits_eq h i hlt
  · have hpow : 2 ^ width ≤ 2 ^ i := Nat.pow_le_pow_right (by decide) hge
    rw [Nat.testBit_lt_two_pow (Nat.lt_of_lt_of_le hm hpow),
      Nat.testBit_lt_two_pow (Nat.lt_of_lt_of_le hn hpow)]

/-! ## Digits -/

theorem value?_eq_some {c : Char} {n : Nat} (h : addressSafe.value? c = some n) :
    n < 64 ∧ addressSafe.digit n = c := by
  have hchar : ∀ m, m = c.toNat → Char.ofNat m = c := fun m hm => by rw [hm, Char.ofNat_toNat]
  simp only [Alphabet.value?, Bool.and_eq_true, decide_eq_true_eq] at h
  split at h
  · obtain rfl := Option.some.inj h
    refine ⟨by omega, ?_⟩
    rw [Alphabet.digit, if_pos (by omega)]
    exact hchar _ (by omega)
  · split at h
    · obtain rfl := Option.some.inj h
      refine ⟨by omega, ?_⟩
      rw [Alphabet.digit, if_neg (by omega), if_pos (by omega)]
      exact hchar _ (by omega)
    · split at h
      · obtain rfl := Option.some.inj h
        refine ⟨by omega, ?_⟩
        rw [Alphabet.digit, if_neg (by omega), if_neg (by omega), if_pos (by omega)]
        exact hchar _ (by omega)
      · split at h
        · next heq =>
          obtain rfl := Option.some.inj h
          exact ⟨by decide, heq.symm⟩
        · split at h
          · next heq =>
            obtain rfl := Option.some.inj h
            exact ⟨by decide, heq.symm⟩
          · cases h

/-! ## What a text spells -/

/-- The bits of octets, one octet after the other. -/
def octetBits (bytes : List UInt8) : List Bool := bytes.flatMap fun b => bits 8 b.toNat

/-- A text spells octets if its digits hold the bits of the octets, filled up with zeros to a whole
digit. -/
def Spells (cs : List Char) (bytes : List UInt8) : Prop :=
  ∃ values : List Nat, cs.map addressSafe.value? = values.map some ∧
    ∃ filling < 6, values.flatMap (bits 6) = octetBits bytes ++ List.replicate filling false

theorem Spells.nil : Spells [] [] := ⟨[], rfl, 0, by decide, rfl⟩

/-- A digit at the end of a number adds its bits at the end. -/
theorem bits_digit {u m k : Nat} (hk : k < 64) :
    bits (u + 6) (m * 64 + k) = bits u m ++ bits 6 k := by
  rw [bits_add, ← bits_mod (Nat.le_refl 6) (m * 64 + k), show (m * 64 + k) / 2 ^ 6 = m by omega,
    show (m * 64 + k) % 2 ^ 6 = k by omega]

theorem bits_octet (u n : Nat) :
    bits (u + 8) n = bits u (n / 256) ++ bits 8 (UInt8.ofNat (n % 256)).toNat := by
  have hoctet : (UInt8.ofNat (n % 256)).toNat = n % 2 ^ 8 :=
    UInt8.toNat_ofNat_of_lt' (Nat.mod_lt n (by decide))
  rw [hoctet, bits_mod (Nat.le_refl 8)]
  exact bits_add u 8 n

theorem bits_octet_of_lt {n : Nat} (h : n < 256) : bits 8 n = bits 8 (UInt8.ofNat n).toNat := by
  rw [UInt8.toNat_ofNat_of_lt' h]

section

variable {c d e f : Char} {w x y z : Nat}

/-- Two digits without bits beyond an octet spell the octet. -/
theorem spells_pair (hc : addressSafe.value? c = some w) (hd : addressSafe.value? d = some x)
    (hlow : x % 16 = 0) : Spells [c, d] [UInt8.ofNat ((w * 64 + x) / 16)] := by
  have hw := (value?_eq_some hc).1
  have hx := (value?_eq_some hd).1
  refine ⟨[w, x], by simp [hc, hd], 4, by decide, ?_⟩
  have hdigits : bits 12 (w * 64 + x) = bits 6 w ++ bits 6 x := bits_digit hx
  have hoctets : bits 12 (w * 64 + x) = bits 8 ((w * 64 + x) / 16) ++ bits 4 (w * 64 + x) :=
    bits_add 8 4 _
  have hzero : bits 4 (w * 64 + x) = List.replicate 4 false := bits_of_mod_eq_zero (by omega)
  rw [hdigits, hzero, bits_octet_of_lt (by omega)] at hoctets
  simpa [octetBits] using hoctets

/-- Three digits without bits beyond two octets spell the two octets. -/
theorem spells_triple (hc : addressSafe.value? c = some w) (hd : addressSafe.value? d = some x)
    (he : addressSafe.value? e = some y) (hlow : y % 4 = 0) :
    Spells [c, d, e] [UInt8.ofNat ((w * 4096 + x * 64 + y) / 1024),
      UInt8.ofNat ((w * 4096 + x * 64 + y) / 4 % 256)] := by
  have hw := (value?_eq_some hc).1
  have hx := (value?_eq_some hd).1
  have hy := (value?_eq_some he).1
  refine ⟨[w, x, y], by simp [hc, hd, he], 2, by decide, ?_⟩
  generalize hn : w * 4096 + x * 64 + y = n
  have hdigits : bits 18 n = bits 6 w ++ bits 6 x ++ bits 6 y := by
    rw [show n = (w * 64 + x) * 64 + y by omega, bits_digit (u := 12) hy, bits_digit (u := 6) hx]
  have hoctets : bits 18 n = bits 8 (n / 4 / 256) ++ bits 8 (UInt8.ofNat (n / 4 % 256)).toNat ++
      bits 2 n := by
    have hsplit : bits 18 n = bits 16 (n / 4) ++ bits 2 n := bits_add 16 2 n
    rw [hsplit, show bits 16 (n / 4) = _ from bits_octet 8 (n / 4)]
  have hzero : bits 2 n = List.replicate 2 false := bits_of_mod_eq_zero (by omega)
  rw [hdigits, hzero, bits_octet_of_lt (by omega), show n / 4 / 256 = n / 1024 by omega] at hoctets
  simpa [octetBits] using hoctets

/-- Four digits in front of a text spell three octets in front of what it spells. -/
theorem Spells.cons {rest : List Char} {tail : List UInt8} (h : Spells rest tail)
    (hc : addressSafe.value? c = some w) (hd : addressSafe.value? d = some x)
    (he : addressSafe.value? e = some y) (hf : addressSafe.value? f = some z) :
    Spells (c :: d :: e :: f :: rest)
      (UInt8.ofNat ((w * 262144 + x * 4096 + y * 64 + z) / 65536) ::
        UInt8.ofNat ((w * 262144 + x * 4096 + y * 64 + z) / 256 % 256) ::
        UInt8.ofNat ((w * 262144 + x * 4096 + y * 64 + z) % 256) :: tail) := by
  have hw := (value?_eq_some hc).1
  have hx := (value?_eq_some hd).1
  have hy := (value?_eq_some he).1
  have hz := (value?_eq_some hf).1
  obtain ⟨values, hvalues, filling, hfilling, hbits⟩ := h
  refine ⟨w :: x :: y :: z :: values, by simp [hc, hd, he, hf, hvalues], filling, hfilling, ?_⟩
  generalize hn : w * 262144 + x * 4096 + y * 64 + z = n
  have hdigits : bits 24 n = bits 6 w ++ bits 6 x ++ bits 6 y ++ bits 6 z := by
    rw [show n = ((w * 64 + x) * 64 + y) * 64 + z by omega, bits_digit (u := 18) hz,
      bits_digit (u := 12) hy, bits_digit (u := 6) hx]
  have hoctets : bits 24 n = bits 8 (UInt8.ofNat (n / 65536)).toNat ++
      bits 8 (UInt8.ofNat (n / 256 % 256)).toNat ++ bits 8 (UInt8.ofNat (n % 256)).toNat := by
    rw [← bits_octet_of_lt (by omega), show n / 65536 = n / 256 / 256 by omega, ← bits_octet,
      ← bits_octet]
  rw [hdigits] at hoctets
  simp only [List.flatMap_cons, octetBits] at hbits ⊢
  rw [hbits, ← List.append_assoc, ← List.append_assoc, ← List.append_assoc, hoctets]
  simp only [List.append_assoc]

end

/-- What is read is spelled by the text. -/
theorem spells_of_decode? {cs : List Char} {bytes : List UInt8}
    (h : decode? addressSafe cs = some bytes) : Spells cs bytes := by
  match cs with
  | [] =>
    obtain rfl := Option.some.inj h
    exact .nil
  | [_] => cases h
  | [c, d] =>
    simp only [decode?, Option.bind_eq_bind, Option.bind_eq_some_iff] at h
    obtain ⟨w, hc, x, hd, h⟩ := h
    split at h
    · next hlow =>
      obtain rfl := Option.some.inj h
      exact spells_pair hc hd hlow
    · cases h
  | [c, d, e] =>
    simp only [decode?, Option.bind_eq_bind, Option.bind_eq_some_iff] at h
    obtain ⟨w, hc, x, hd, y, he, h⟩ := h
    split at h
    · next hlow =>
      obtain rfl := Option.some.inj h
      exact spells_triple hc hd he hlow
    · cases h
  | c :: d :: e :: f :: rest =>
    simp only [decode?, Option.bind_eq_bind, Option.bind_eq_some_iff] at h
    obtain ⟨w, hc, x, hd, y, he, z, hf, tail, htail, h⟩ := h
    obtain rfl := Option.some.inj h
    exact (spells_of_decode? htail).cons hc hd he hf

/-! ## One text for octets -/

theorem eq_of_map_value?_eq {cs cs' : List Char} {values : List Nat}
    (h : cs.map addressSafe.value? = values.map some)
    (h' : cs'.map addressSafe.value? = values.map some) : cs = cs' := by
  induction cs generalizing cs' values with
  | nil =>
    cases values with
    | nil => exact (List.map_eq_nil_iff.mp h').symm
    | cons n values => cases h
  | cons c rest ih =>
    cases values with
    | nil => cases h
    | cons n values =>
      cases cs' with
      | nil => cases h'
      | cons c' rest' =>
        obtain ⟨hc, hrest⟩ := List.cons.inj h
        obtain ⟨hc', hrest'⟩ := List.cons.inj h'
        rw [ih hrest hrest', ← (value?_eq_some hc).2, (value?_eq_some hc').2]

theorem lt_of_map_value?_eq {cs : List Char} {values : List Nat}
    (h : cs.map addressSafe.value? = values.map some) : ∀ n ∈ values, n < 64 := by
  intro n hn
  have hmem : some n ∈ cs.map addressSafe.value? := h ▸ List.mem_map_of_mem hn
  obtain ⟨c, -, hc⟩ := List.mem_map.mp hmem
  exact (value?_eq_some hc).1

theorem eq_of_flatMap_bits_eq {values values' : List Nat} (hlen : values.length = values'.length)
    (hlt : ∀ n ∈ values, n < 64) (hlt' : ∀ n ∈ values', n < 64)
    (h : values.flatMap (bits 6) = values'.flatMap (bits 6)) : values = values' := by
  induction values generalizing values' with
  | nil => exact (List.length_eq_zero_iff.mp hlen.symm).symm
  | cons n rest ih =>
    cases values' with
    | nil => cases hlen
    | cons n' rest' =>
      rw [List.flatMap_cons, List.flatMap_cons] at h
      obtain ⟨hhead, htail⟩ := List.append_inj h (by rw [length_bits, length_bits])
      have hn : n = n' :=
        eq_of_bits_eq (hlt n List.mem_cons_self) (hlt' n' List.mem_cons_self) hhead
      have hrest : rest = rest' := ih (Nat.succ.inj hlen)
        (fun m hm => hlt m (List.mem_cons_of_mem _ hm))
        (fun m hm => hlt' m (List.mem_cons_of_mem _ hm)) htail
      rw [hn, hrest]

theorem length_flatMap_bits (width : Nat) (values : List Nat) :
    (values.flatMap (bits width)).length = width * values.length := by
  induction values with
  | nil => rfl
  | cons n rest ih => rw [List.flatMap_cons, List.length_append, ih, length_bits, List.length_cons,
      Nat.mul_succ, Nat.add_comm]

/-- Octets are spelled by one text: how many digits there are, and how many bits are filled up,
follows from the number of octets. -/
theorem Spells.unique {cs cs' : List Char} {bytes : List UInt8} (h : Spells cs bytes)
    (h' : Spells cs' bytes) : cs = cs' := by
  obtain ⟨values, hvalues, filling, hfilling, hbits⟩ := h
  obtain ⟨values', hvalues', filling', hfilling', hbits'⟩ := h'
  have hcount := congrArg List.length hbits
  have hcount' := congrArg List.length hbits'
  rw [length_flatMap_bits, List.length_append, List.length_replicate] at hcount hcount'
  have hfill : filling = filling' := by omega
  subst hfill
  have heq : values = values' := eq_of_flatMap_bits_eq (by omega) (lt_of_map_value?_eq hvalues)
    (lt_of_map_value?_eq hvalues') (hbits.trans hbits'.symm)
  subst heq
  exact eq_of_map_value?_eq hvalues hvalues'

theorem spells_encode (bytes : List UInt8) : Spells (encode addressSafe bytes) bytes :=
  spells_of_decode? (decode?_encode bytes)

/-- A text is read as the octets that it spells, and as nothing if it spells none. -/
theorem decode?_eq_some_iff {cs : List Char} {bytes : List UInt8} :
    decode? addressSafe cs = some bytes ↔ Spells cs bytes := by
  refine ⟨spells_of_decode?, fun h => ?_⟩
  rw [h.unique (spells_encode bytes), decode?_encode]

/-! ## The standard form -/

/-- The standard character of a digit. -/
def standardDigit (c : Char) : Char :=
  if c = '-' then '+' else if c = '_' then '/' else c

/-- A text spells octets in the standard form: in standard digits, with as many `=` behind them as it
takes to make groups of four. -/
def SpellsFilled (cs : List Char) (bytes : List UInt8) : Prop :=
  ∃ digits, Spells digits bytes ∧ ∃ filling < 4,
    cs = digits.map standardDigit ++ List.replicate filling '=' ∧ cs.length % 4 = 0

theorem standardDigit_digit {n : Nat} (h : n < 64) :
    standardDigit (addressSafe.digit n) = standard.digit n := by
  have hall : ∀ m < 64, standardDigit (addressSafe.digit m) = standard.digit m := by decide
  exact hall n h

/-- How many characters the last group lacks. -/
def lacking (bytes : List UInt8) : Nat := (3 - bytes.length % 3) % 3

theorem lacking_cons (x y z : UInt8) (rest : List UInt8) :
    lacking (x :: y :: z :: rest) = lacking rest := by
  simp only [lacking, List.length_cons]
  omega

theorem encode_standard (bytes : List UInt8) :
    encode standard bytes =
      (encode addressSafe bytes).map standardDigit ++ List.replicate (lacking bytes) '=' := by
  match bytes with
  | [] => rfl
  | [x] =>
    have hx : x.toNat < 256 := x.toNat_lt
    simp only [encode_singleton, List.map_cons, List.map_nil]
    rw [standardDigit_digit (by omega), standardDigit_digit (by omega)]
    rfl
  | [x, y] =>
    have hx : x.toNat < 256 := x.toNat_lt
    have hy : y.toNat < 256 := y.toNat_lt
    simp only [encode_pair, List.map_cons, List.map_nil]
    rw [standardDigit_digit (by omega), standardDigit_digit (by omega),
      standardDigit_digit (by omega)]
    rfl
  | x :: y :: z :: rest =>
    have hx : x.toNat < 256 := x.toNat_lt
    have hy : y.toNat < 256 := y.toNat_lt
    have hz : z.toNat < 256 := z.toNat_lt
    rw [encode, encode, encode_standard rest, lacking_cons]
    simp only [List.map_cons, List.cons_append]
    rw [standardDigit_digit (by omega), standardDigit_digit (by omega),
      standardDigit_digit (by omega), standardDigit_digit (by omega)]

theorem length_encode_add_lacking (bytes : List UInt8) :
    ((encode addressSafe bytes).length + lacking bytes) % 4 = 0 := by
  match bytes with
  | [] => rfl
  | [x] => simp [encode_singleton, lacking]
  | [x, y] => simp [encode_pair, lacking]
  | x :: y :: z :: rest =>
    have hrest := length_encode_add_lacking rest
    rw [encode, lacking_cons]
    simp only [List.length_cons]
    omega

/-- Octets are spelled by one text in the standard form, and so they are written. -/
theorem spellsFilled_iff {cs : List Char} {bytes : List UInt8} :
    SpellsFilled cs bytes ↔ cs = encode standard bytes := by
  have hlength := length_encode_add_lacking bytes
  have hlacking : lacking bytes < 4 := by
    unfold lacking
    omega
  rw [encode_standard]
  constructor
  · rintro ⟨digits, hspells, filling, hfilling, rfl, hgroups⟩
    obtain rfl := hspells.unique (spells_encode bytes)
    rw [List.length_append, List.length_map, List.length_replicate] at hgroups
    rw [show filling = lacking bytes by omega]
  · rintro rfl
    refine ⟨_, spells_encode bytes, _, hlacking, rfl, ?_⟩
    rwa [List.length_append, List.length_map, List.length_replicate]

/-- Such a text is made of digits and filling. -/
theorem SpellsFilled.mem {cs : List Char} {bytes : List UInt8} (h : SpellsFilled cs bytes) {c : Char}
    (hc : c ∈ cs) : c = '=' ∨ ∃ n < 64, c = standard.digit n := by
  obtain ⟨digits, hspells, filling, -, rfl, -⟩ := h
  obtain rfl := hspells.unique (spells_encode bytes)
  rcases List.mem_append.mp hc with hdigit | hfilling
  · obtain ⟨d, hd, rfl⟩ := List.mem_map.mp hdigit
    obtain ⟨n, hn, rfl⟩ := exists_digit_of_mem_encode hd
    exact .inr ⟨n, hn, standardDigit_digit hn⟩
  · exact .inl (List.eq_of_mem_replicate hfilling)

end Switchboard.Base64
