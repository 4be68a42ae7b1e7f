/-!
# Decimal numerals

Unsigned numerals of 64 bits. Writing uses plain digits; reading also accepts a leading `+` and
leading zeros, and refuses everything else: blanks, other signs, no digits, too large a value.
-/

namespace Switchboard.Decimal

/-- Unsigned numbers are smaller than this. -/
def wordBound : Nat := 0x10000000000000000

/-- The numeral of a number. -/
def write (n : Nat) : List Char :=
  Nat.toDigits 10 n

/-- Reads digits only, at least one. -/
def readDigits? (cs : List Char) : Option Nat :=
  if cs.isEmpty || !cs.all Char.isDigit then none else some (Nat.ofDigitChars 10 cs 0)

/-- Reads a numeral below `wordBound`; a `+` may stand in front. -/
def readWord? (cs : List Char) : Option Nat :=
  let digits := match cs with
    | '+' :: rest => rest
    | other => other
  match readDigits? digits with
  | some n => if n < wordBound then some n else none
  | none => none

theorem write_ne_nil (n : Nat) : write n ≠ [] := by
  simp [write]

theorem all_isDigit_write (n : Nat) : (write n).all Char.isDigit = true :=
  List.all_eq_true.2 fun _ h => Nat.isDigit_of_mem_toDigits (by decide) (by decide) h

theorem readDigits?_write (n : Nat) : readDigits? (write n) = some n := by
  have h : (write n).isEmpty = false := by simp [write_ne_nil]
  simp [readDigits?, h, all_isDigit_write]
  exact Nat.ofDigitChars_toDigits (by decide) (by decide)

theorem readWord?_write {n : Nat} (h : n < wordBound) : readWord? (write n) = some n := by
  have hsign : ∀ rest, write n ≠ '+' :: rest := by
    intro rest heq
    have hdigit := List.all_eq_true.mp (all_isDigit_write n) '+' (heq ▸ List.mem_cons_self)
    cases hdigit
  simp only [readWord?, readDigits?_write, if_pos h]

theorem readDigits?_eq_some_iff {cs : List Char} {n : Nat} :
    readDigits? cs = some n ↔
      cs ≠ [] ∧ cs.all Char.isDigit = true ∧ Nat.ofDigitChars 10 cs 0 = n := by
  cases cs with
  | nil => simp [readDigits?]
  | cons c rest =>
    cases hall : (c :: rest).all Char.isDigit with
    | true => simp [readDigits?, hall]
    | false => simp [readDigits?, hall]

theorem readWord?_signed (digits : List Char) :
    readWord? ('+' :: digits) = (readDigits? digits).filter (decide <| · < wordBound) := by
  rw [readWord?]
  cases readDigits? digits with
  | none => rfl
  | some n => by_cases hlt : n < wordBound <;> simp [Option.filter, hlt]

theorem readWord?_unsigned {cs : List Char} (h : ∀ rest, cs ≠ '+' :: rest) :
    readWord? cs = (readDigits? cs).filter (decide <| · < wordBound) := by
  rw [readWord?]
  · cases readDigits? cs with
    | none => rfl
    | some n => by_cases hlt : n < wordBound <;> simp [Option.filter, hlt]
  · exact h

/-- What is read is the value of digits behind an optional sign. -/
theorem readWord?_eq_some_iff {cs : List Char} {n : Nat} :
    readWord? cs = some n ↔
      ∃ sign digits, cs = sign ++ digits ∧ (sign = [] ∨ sign = ['+']) ∧ digits ≠ [] ∧
        digits.all Char.isDigit = true ∧ Nat.ofDigitChars 10 digits 0 = n ∧ n < wordBound := by
  have hdigits : ∀ digits, (readDigits? digits).filter (decide <| · < wordBound) = some n ↔
      (digits ≠ [] ∧ digits.all Char.isDigit = true ∧ Nat.ofDigitChars 10 digits 0 = n) ∧
        n < wordBound := fun digits => by
    rw [Option.filter_eq_some_iff, readDigits?_eq_some_iff, decide_eq_true_eq]
  constructor
  · intro h
    by_cases hsign : ∃ rest, cs = '+' :: rest
    · obtain ⟨rest, rfl⟩ := hsign
      rw [readWord?_signed, hdigits] at h
      obtain ⟨⟨hne, hall, hvalue⟩, hlt⟩ := h
      exact ⟨['+'], rest, rfl, .inr rfl, hne, hall, hvalue, hlt⟩
    · rw [readWord?_unsigned fun rest heq => hsign ⟨rest, heq⟩, hdigits] at h
      obtain ⟨⟨hne, hall, hvalue⟩, hlt⟩ := h
      exact ⟨[], cs, rfl, .inl rfl, hne, hall, hvalue, hlt⟩
  · rintro ⟨sign, digits, rfl, rfl | rfl, hne, hall, hvalue, hlt⟩
    · have hunsigned : ∀ rest, [] ++ digits ≠ '+' :: rest := by
        rintro rest rfl
        cases hall
      rw [readWord?_unsigned hunsigned]
      exact (hdigits digits).mpr ⟨⟨hne, hall, hvalue⟩, hlt⟩
    · rw [List.singleton_append, readWord?_signed]
      exact (hdigits digits).mpr ⟨⟨hne, hall, hvalue⟩, hlt⟩

theorem lt_wordBound_of_readWord? {cs : List Char} {n : Nat} (h : readWord? cs = some n) :
    n < wordBound := by
  simp only [readWord?] at h
  generalize readDigits? _ = digits at h
  cases digits with
  | none => cases h
  | some m =>
    simp only at h
    split at h
    · next hlt =>
      obtain rfl := Option.some.inj h
      exact hlt
    · cases h

end Switchboard.Decimal
