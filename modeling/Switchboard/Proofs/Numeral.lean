import Switchboard.Json.Text
import Switchboard.Json.Written
import Switchboard.Proofs.Shortest

/-!
# Numbers as they are written

Every number is written as a numeral of the JSON grammar, and reading takes exactly this numeral and
leaves what follows (`readNumeral?_text`). A numeral is kept by its parts; `FloatForm.numeral` and
`JsonNumber.numeral` are the parts that the layouts of floats and whole numbers consist of.

A numeral may not start with a zero that is followed by another digit. For floats this comes down to
the shortest decimal not being zero.
-/

namespace Switchboard

/-! ## Numerals of naturals -/

theorem Decimal.head?_write {n : Nat} (h : 0 < n) : (write n).head? ≠ some '0' := by
  induction n using Nat.strongRecOn with
  | ind n ih =>
    by_cases hlt : n < 10
    · have hdigit : ∀ d < 10, 0 < d → Nat.digitChar d ≠ '0' := by decide
      rw [write, Nat.toDigits_of_lt_base hlt]
      simpa using hdigit n hlt h
    · have hquotient := ih (n / 10) (by omega) (by omega)
      rw [write, Nat.toDigits_of_base_le (by decide) (by omega)]
      rwa [List.head?_append_of_ne_nil _ Nat.toDigits_ne_nil]

theorem Decimal.write_ne_zero_cons (n : Nat) (d : Char) (ds : List Char) :
    write n ≠ '0' :: d :: ds := by
  intro heq
  rcases Nat.eq_zero_or_pos n with rfl | hpos
  · cases heq
  · exact head?_write hpos (by rw [heq]; rfl)

namespace Json

/-! ## The text of a numeral -/

def fractionText : Option (List Char) → List Char
  | none => []
  | some ds => '.' :: ds

def exponentText : Option (Bool × List Char) → List Char
  | none => []
  | some (negative, ds) => 'e' :: (if negative then '-' else '+') :: ds

/-- The text of a numeral, with the sign of the exponent written out. -/
def Numeral.text (n : Numeral) : List Char :=
  (if n.negative then ['-'] else []) ++ (n.whole ++ (fractionText n.fraction ++
    exponentText n.exponent))

/-- The parts of a numeral are what the grammar asks for. -/
structure Numeral.WellFormed (n : Numeral) : Prop where
  whole_ne_nil : n.whole ≠ []
  isDigit_whole : n.whole.all Char.isDigit = true
  whole_ne_zero_cons : ∀ d ds, n.whole ≠ '0' :: d :: ds
  fraction : ∀ ds ∈ n.fraction, ds ≠ [] ∧ ds.all Char.isDigit = true
  exponent : ∀ e ∈ n.exponent, e.2 ≠ [] ∧ e.2.all Char.isDigit = true

/-- Nothing of a number follows. -/
def Ends (rest : List Char) : Prop :=
  ∀ c ∈ rest.head?, c.isDigit = false ∧ c ≠ '.' ∧ c ≠ 'e' ∧ c ≠ 'E'

/-! ## Reading the text of a numeral -/

theorem digits_append {ds rest : List Char} (hds : ds.all Char.isDigit = true)
    (hrest : ∀ c ∈ rest.head?, c.isDigit = false) : digits (ds ++ rest) = (ds, rest) := by
  have hall : ∀ c ∈ ds, c.isDigit = true := List.all_eq_true.mp hds
  rw [digits, List.takeWhile_append_of_pos hall, List.dropWhile_append_of_pos hall]
  cases rest with
  | nil => simp
  | cons c rest =>
    have hc : c.isDigit = false := hrest c rfl
    simp [hc]

theorem readExponent?_text {e : Option (Bool × List Char)} {rest : List Char}
    (he : ∀ x ∈ e, x.2 ≠ [] ∧ x.2.all Char.isDigit = true) (hrest : Ends rest) :
    readExponent? (exponentText e ++ rest) = some (e, rest) := by
  cases e with
  | none =>
    cases rest with
    | nil => rfl
    | cons c rest =>
      obtain ⟨-, -, hlower, hupper⟩ := hrest c rfl
      simp [exponentText, readExponent?, hlower, hupper]
  | some e =>
    obtain ⟨negative, ds⟩ := e
    obtain ⟨hne, hds⟩ := he _ rfl
    have hdigits := digits_append hds fun c hc => (hrest c hc).1
    obtain ⟨d, tail, rfl⟩ := List.exists_cons_of_ne_nil hne
    rw [List.cons_append] at hdigits
    cases negative with
    | true => simp [exponentText, readExponent?, hdigits]
    | false => simp [exponentText, readExponent?, hdigits]

theorem readFraction?_text {f : Option (List Char)} {rest : List Char}
    (hf : ∀ ds ∈ f, ds ≠ [] ∧ ds.all Char.isDigit = true)
    (hrest : ∀ c ∈ rest.head?, c.isDigit = false ∧ c ≠ '.') :
    readFraction? (fractionText f ++ rest) = some (f, rest) := by
  cases f with
  | none =>
    cases rest with
    | nil => rfl
    | cons c rest =>
      have hpoint : c ≠ '.' := (hrest c rfl).2
      rw [fractionText, List.nil_append, readFraction?.eq_def]
      split
      · next heq => exact absurd (List.cons.inj heq).1 hpoint
      · rfl
  | some ds =>
    obtain ⟨hne, hds⟩ := hf ds rfl
    have hdigits := digits_append hds fun c hc => (hrest c hc).1
    obtain ⟨d, tail, rfl⟩ := List.exists_cons_of_ne_nil hne
    rw [List.cons_append] at hdigits
    simp [fractionText, readFraction?, hdigits]

/-- What follows a fraction is no digit and no point. -/
theorem head?_exponentText {e : Option (Bool × List Char)} {rest : List Char} (hrest : Ends rest) :
    ∀ c ∈ (exponentText e ++ rest).head?, c.isDigit = false ∧ c ≠ '.' := by
  intro c hc
  cases e with
  | none => exact ⟨(hrest c hc).1, (hrest c hc).2.1⟩
  | some e =>
    obtain rfl : 'e' = c := Option.some.inj hc
    decide

theorem head?_fractionText {f : Option (List Char)} {rest : List Char}
    (hrest : ∀ c ∈ rest.head?, c.isDigit = false ∧ c ≠ '.') :
    ∀ c ∈ (fractionText f ++ rest).head?, c.isDigit = false := by
  intro c hc
  cases f with
  | none => exact (hrest c hc).1
  | some ds =>
    obtain rfl : '.' = c := Option.some.inj hc
    decide

/-- Reading takes the text of a numeral and leaves what follows. -/
theorem readNumeral?_text {n : Numeral} (hn : n.WellFormed) {rest : List Char}
    (hrest : Ends rest) : readNumeral? (n.text ++ rest) = some (n, rest) := by
  obtain ⟨negative, whole, fraction, exponent⟩ := n
  obtain ⟨hne, hwhole, hzero, hfraction, hexponent⟩ := hn
  simp only at hne hwhole hzero hfraction hexponent
  have hafter := head?_exponentText (e := exponent) hrest
  have hdigits := digits_append hwhole (head?_fractionText (f := fraction) hafter)
  have hreadFraction := readFraction?_text hfraction hafter
  have hreadExponent := readExponent?_text hexponent hrest
  obtain ⟨d, tail, rfl⟩ := List.exists_cons_of_ne_nil hne
  rw [List.cons_append] at hdigits
  -- a sign is told from a digit by its first character
  have hunsigned : ∀ cs, d :: (tail ++ (fractionText fraction ++
      (exponentText exponent ++ rest))) ≠ '-' :: cs := by
    rintro cs heq
    obtain rfl := (List.cons.inj heq).1
    cases hwhole
  cases negative with
  | true =>
    simp only [readNumeral?, Numeral.text, if_true, List.cons_append, List.nil_append,
      List.append_assoc, hdigits, Option.bind_eq_bind, Option.bind_some, hreadFraction,
      hreadExponent]
  | false =>
    simp only [readNumeral?, Numeral.text, Bool.false_eq_true, if_false, List.cons_append,
      List.nil_append, List.append_assoc, hdigits, Option.bind_eq_bind, Option.bind_some,
      hreadFraction, hreadExponent]

/-! ## The numerals of numbers -/

/-- The parts of a positional or scientific layout. -/
def FloatForm.numeral (form : FloatForm) (digits : List Char) (point : Int) : Numeral :=
  if form.least ≤ point && decide (point ≤ form.most) then
    if point ≤ 0 then ⟨false, ['0'], some (zeros (-point) ++ digits), none⟩
    else if point < digits.length then
      ⟨false, digits.take point.toNat, some (digits.drop point.toNat), none⟩
    else ⟨false, digits ++ zeros (point - digits.length), some ['0'], none⟩
  else
    let e := point - 1
    let exponent := some (decide (e < 0), Decimal.write e.natAbs)
    match digits with
    | d :: d' :: ds => ⟨false, [d], some (d' :: ds), exponent⟩
    | ds => ⟨false, ds, none, exponent⟩

theorem FloatForm.text_numeral (form : FloatForm) (digits : List Char) (point : Int) :
    (form.numeral digits point).text = form.layout digits point := by
  simp only [numeral, layout]
  split
  · split
    · simp [Numeral.text, fractionText, exponentText]
    · split
      · simp [Numeral.text, fractionText, exponentText]
      · simp [Numeral.text, fractionText, exponentText]
  · match digits with
    | [] => simp [Numeral.text, fractionText, exponentText]
    | [d] => simp [Numeral.text, fractionText, exponentText]
    | d :: d' :: ds => simp [Numeral.text, fractionText, exponentText]

theorem all_isDigit_zeros (n : Int) : (zeros n).all Char.isDigit = true := by
  simp [zeros]

section

variable {c : Char} {tail : List Char}

theorem ne_zero_cons_of_head? (h : (c :: tail).head? ≠ some '0') (rest : List Char) (d : Char)
    (ds : List Char) : c :: rest ≠ '0' :: d :: ds :=
  fun heq => h (congrArg some (List.cons.inj heq).1)

/-- A point among digits leaves digits on both sides. -/
theorem wellFormed_split (hdigits : (c :: tail).all Char.isDigit = true)
    (hzero : (c :: tail).head? ≠ some '0') {n : Nat} (hpos : 0 < n) (hlt : n < (c :: tail).length) :
    Numeral.WellFormed ⟨false, (c :: tail).take n, some ((c :: tail).drop n), none⟩ := by
  obtain ⟨n, rfl⟩ := Nat.exists_eq_add_of_lt hpos
  have hall := List.all_eq_true.mp hdigits
  refine ⟨by simp, ?_, ?_, ?_, by simp⟩
  · exact List.all_eq_true.mpr fun d hd => hall d (List.mem_of_mem_take hd)
  · rw [Nat.zero_add, List.take_succ_cons]
    exact ne_zero_cons_of_head? hzero _
  · intro ds hds
    obtain rfl := Option.some.inj hds
    refine ⟨fun hnil => ?_, List.all_eq_true.mpr fun d hd => hall d (List.mem_of_mem_drop hd)⟩
    exact absurd (List.drop_eq_nil_iff.mp hnil) (Nat.not_le.mpr hlt)

end

theorem FloatForm.wellFormed_numeral (form : FloatForm) {digits : List Char} (point : Int)
    (hdigits : digits.all Char.isDigit = true) (hne : digits ≠ [])
    (hzero : digits.head? ≠ some '0') : (form.numeral digits point).WellFormed := by
  obtain ⟨c, tail, rfl⟩ := List.exists_cons_of_ne_nil hne
  simp only [numeral]
  split
  · split
    · -- zeros between the point and the digits
      refine ⟨by simp, by rfl, by simp, ?_, by simp⟩
      intro ds hds
      obtain rfl := Option.some.inj hds
      exact ⟨by simp, by rw [List.all_append, all_isDigit_zeros, hdigits]; rfl⟩
    · split
      · exact wellFormed_split hdigits hzero (by omega) (by omega)
      · -- zeros between the digits and the point
        refine ⟨by simp, ?_, ne_zero_cons_of_head? hzero _, ?_, by simp⟩
        · rw [List.all_append, all_isDigit_zeros, hdigits]
          rfl
        · intro ds hds
          obtain rfl := Option.some.inj hds
          decide
  · have hexponent : ∀ e ∈ some (decide (point - 1 < 0), Decimal.write (point - 1).natAbs),
        e.2 ≠ [] ∧ e.2.all Char.isDigit = true := by
      intro e he
      obtain rfl := Option.some.inj he
      exact ⟨Decimal.write_ne_nil _, Decimal.all_isDigit_write _⟩
    cases tail with
    | nil => exact ⟨by simp, hdigits, ne_zero_cons_of_head? hzero _, by simp, hexponent⟩
    | cons d ds =>
      rw [List.all_cons, Bool.and_eq_true] at hdigits
      refine ⟨by simp, by simpa using hdigits.1, ne_zero_cons_of_head? hzero _, ?_, hexponent⟩
      intro ds' hds'
      obtain rfl := Option.some.inj hds'
      exact ⟨by simp, hdigits.2⟩

/-- The parts of the text of a finite float. -/
def floatNumeral (f : Float) : Numeral :=
  let magnitude : Numeral := match Binary64.magnitude? f with
    | none => ⟨false, ['0'], some ['0'], none⟩
    | some m =>
      let (d, e) := Binary64.shortest m
      let ds := Decimal.write d
      floatForm.numeral ds (ds.length + e)
  { magnitude with negative := Binary64.isNegative f }

theorem text_floatNumeral (f : Float) : (floatNumeral f).text = floatText f := by
  have hunsigned : ∀ (form : FloatForm) (digits : List Char) (point : Int),
      (form.numeral digits point).negative = false := by
    intro form digits point
    simp only [FloatForm.numeral]
    split
    · split
      · rfl
      · split <;> rfl
    · split <;> rfl
  have hsign : ∀ n : Numeral, n.negative = false → ({ n with negative := Binary64.isNegative f } :
      Numeral).text = if Binary64.isNegative f then '-' :: n.text else n.text := by
    intro n hn
    simp only [Numeral.text, hn]
    split <;> rfl
  simp only [floatNumeral, floatText]
  cases Binary64.magnitude? f with
  | none => exact hsign _ rfl
  | some m =>
    simp only
    rw [hsign _ (hunsigned _ _ _), FloatForm.text_numeral]

theorem wellFormed_floatNumeral (f : Float) : (floatNumeral f).WellFormed := by
  have hsign : ∀ {n : Numeral}, n.WellFormed →
      ({ n with negative := Binary64.isNegative f } : Numeral).WellFormed :=
    fun hn => ⟨hn.1, hn.2, hn.3, hn.4, hn.5⟩
  simp only [floatNumeral]
  cases hmagnitude : Binary64.magnitude? f with
  | none =>
    refine hsign ⟨by simp, by decide, by simp, ?_, by simp⟩
    intro ds hds
    obtain rfl := Option.some.inj hds
    decide
  | some m =>
    have hpos := (Binary64.shortest_reads (Binary64.isFloat_of_magnitude? hmagnitude)).1
    exact hsign (floatForm.wellFormed_numeral _ (Decimal.all_isDigit_write _)
      (Decimal.write_ne_nil _) (Decimal.head?_write hpos))

/-! ## The characters of a numeral -/

/-- A numeral is made of digits, signs, a point and an `e`. -/
theorem mem_text_numeral {n : Numeral} (hn : n.WellFormed) {c : Char} (hc : c ∈ n.text) :
    c.isDigit = true ∨ c = '-' ∨ c = '+' ∨ c = '.' ∨ c = 'e' := by
  simp only [Numeral.text, List.mem_append] at hc
  rcases hc with hsign | hwhole | hfraction | hexponent
  · split at hsign
    · exact .inr (.inl (List.mem_singleton.mp hsign))
    · cases hsign
  · exact .inl (List.all_eq_true.mp hn.isDigit_whole c hwhole)
  · cases hf : n.fraction with
    | none =>
      rw [hf] at hfraction
      cases hfraction
    | some ds =>
      rw [hf] at hfraction
      rcases List.mem_cons.mp hfraction with rfl | hds
      · simp
      · exact .inl (List.all_eq_true.mp (hn.fraction ds hf).2 c hds)
  · cases he : n.exponent with
    | none =>
      rw [he] at hexponent
      cases hexponent
    | some e =>
      rw [he] at hexponent
      rcases List.mem_cons.mp hexponent with rfl | hrest
      · simp
      · rcases List.mem_cons.mp hrest with rfl | hds
        · split <;> simp
        · exact .inl (List.all_eq_true.mp (hn.exponent e he).2 c hds)

/-- A numeral starts with a digit or a minus sign. -/
theorem exists_cons_text_numeral {n : Numeral} (hn : n.WellFormed) :
    ∃ c cs, n.text = c :: cs ∧ (c.isDigit = true ∨ c = '-') := by
  obtain ⟨d, tail, hwhole⟩ := List.exists_cons_of_ne_nil hn.whole_ne_nil
  have hd : d.isDigit = true := by
    have hall := hn.isDigit_whole
    rw [hwhole, List.all_cons, Bool.and_eq_true] at hall
    exact hall.1
  rw [Numeral.text, hwhole]
  split
  · exact ⟨'-', _, rfl, .inr rfl⟩
  · exact ⟨d, _, rfl, .inl hd⟩

end Json

/-- The parts of the text of a number. -/
def JsonNumber.numeral : JsonNumber → Json.Numeral
  | .int (.ofNat n) => ⟨false, Decimal.write n, none, none⟩
  | .int (.negSucc n) => ⟨true, Decimal.write (n + 1), none, none⟩
  | .float f => Json.floatNumeral f

theorem JsonNumber.text_numeral (n : JsonNumber) : n.numeral.text = n.text := by
  match n with
  | .int (.ofNat n) =>
    simp [numeral, Json.Numeral.text, Json.fractionText, Json.exponentText, text, Json.intText]
  | .int (.negSucc n) =>
    simp [numeral, Json.Numeral.text, Json.fractionText, Json.exponentText, text, Json.intText]
  | .float f => exact Json.text_floatNumeral f

theorem JsonNumber.wellFormed_numeral (n : JsonNumber) : n.numeral.WellFormed := by
  have hwrite : ∀ (negative : Bool) (n : Nat),
      (⟨negative, Decimal.write n, none, none⟩ : Json.Numeral).WellFormed := fun negative n =>
    ⟨Decimal.write_ne_nil n, Decimal.all_isDigit_write n, Decimal.write_ne_zero_cons n,
      by simp, by simp⟩
  match n with
  | .int (.ofNat n) => exact hwrite false n
  | .int (.negSucc n) => exact hwrite true (n + 1)
  | .float f => exact Json.wellFormed_floatNumeral f

end Switchboard
