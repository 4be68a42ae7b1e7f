import Switchboard.Proofs.Numeral

/-!
# Values are written as they are read

The compact text of a value is a JSON text: `Json.written` is what it consists of, and the reader
takes exactly that and leaves what follows (`readValue?_compact`, by recursion over the value, with
the length of the text for fuel). The text has no raw control character, so it stays on one line.
-/

namespace Switchboard.Json

/-! ## Quoted texts -/

/-- What a character is written as: an escape of its number, or itself. -/
def glyph (c : Char) : Glyph :=
  if c = '\n' ∨ c = '\r' ∨ c = '\t' ∨ c = '\x08' ∨ c = '\x0c' ∨ 0x20 ≤ c.toNat then .char c
  else .unit c.toNat

theorem hexValue?_hexDigit : ∀ n < 16, hexValue? (hexDigit n) = some n := by decide

theorem readQuoted?_escaped {e c : Char} (h : escaped? e = some c) (rest : List Char) :
    readQuoted? ('\\' :: e :: rest) =
      (readQuoted? rest).map fun p => (.char c :: p.1, p.2) := by
  have hu : e ≠ 'u' := by
    rintro rfl
    cases h
  rw [readQuoted?.eq_def]
  split
  · next heq => cases heq
  · next heq => exact absurd (List.cons.inj (List.cons.inj heq).2).1 hu
  · next heq =>
    obtain ⟨rfl, rfl⟩ := List.cons.inj (List.cons.inj heq).2
    rw [h]
    cases readQuoted? rest <;> rfl
  · next hne heq =>
    obtain ⟨rfl, rfl⟩ := List.cons.inj heq
    exact (hne _ _ rfl rfl).elim
  · next heq => cases heq

theorem readQuoted?_unit {a b : Nat} (ha : a < 16) (hb : b < 16) (rest : List Char) :
    readQuoted? ('\\' :: 'u' :: '0' :: '0' :: hexDigit a :: hexDigit b :: rest) =
      (readQuoted? rest).map fun p => (.unit (a * 16 + b) :: p.1, p.2) := by
  have hzero : hexValue? '0' = some 0 := rfl
  rw [readQuoted?, hzero, hexValue?_hexDigit a ha, hexValue?_hexDigit b hb]
  cases readQuoted? rest with
  | none => rfl
  | some p => simp

theorem readQuoted?_plain {c : Char} (hquote : c ≠ '"') (hescape : c ≠ '\\')
    (hcontrol : 0x20 ≤ c.toNat) (rest : List Char) :
    readQuoted? (c :: rest) = (readQuoted? rest).map fun p => (.char c :: p.1, p.2) := by
  have hkeep : (decide (c = '\\') || decide (c.toNat < 0x20)) = false := by
    simp [hescape, hcontrol]
  rw [readQuoted?.eq_def]
  split
  · next heq => exact absurd (List.cons.inj heq).1 hquote
  · next heq => exact absurd (List.cons.inj heq).1 hescape
  · next heq => exact absurd (List.cons.inj heq).1 hescape
  · next heq =>
    obtain ⟨rfl, rfl⟩ := List.cons.inj heq
    rw [hkeep]
    rfl
  · next heq => cases heq

/-- A character is written as an escape of one letter, as an escape of its number, or as itself. -/
theorem escape_cases (c : Char) :
    (∃ e, escaped? e = some c ∧ 0x20 ≤ e.toNat ∧ escape c = ['\\', e] ∧ glyph c = .char c) ∨
      (c.toNat < 0x20 ∧
        escape c = ['\\', 'u', '0', '0', hexDigit (c.toNat / 16), hexDigit (c.toNat % 16)] ∧
        glyph c = .unit c.toNat) ∨
      (c ≠ '"' ∧ c ≠ '\\' ∧ 0x20 ≤ c.toNat ∧ escape c = [c] ∧ glyph c = .char c) := by
  by_cases hquote : c = '"'
  · exact .inl ⟨'"', by subst hquote; decide⟩
  by_cases hescape : c = '\\'
  · exact .inl ⟨'\\', by subst hescape; decide⟩
  by_cases hn : c = '\n'
  · exact .inl ⟨'n', by subst hn; decide⟩
  by_cases hr : c = '\r'
  · exact .inl ⟨'r', by subst hr; decide⟩
  by_cases ht : c = '\t'
  · exact .inl ⟨'t', by subst ht; decide⟩
  by_cases hb : c = '\x08'
  · exact .inl ⟨'b', by subst hb; decide⟩
  by_cases hf : c = '\x0c'
  · exact .inl ⟨'f', by subst hf; decide⟩
  by_cases hcontrol : c.toNat < 0x20
  · refine .inr (.inl ⟨hcontrol, ?_, ?_⟩)
    · simp [escape, hquote, hescape, hn, hr, ht, hb, hf, hcontrol]
    · simp [glyph, hn, hr, ht, hb, hf, Nat.not_le.mpr hcontrol]
  · refine .inr (.inr ⟨hquote, hescape, Nat.le_of_not_lt hcontrol, ?_, ?_⟩)
    · simp [escape, hquote, hescape, hn, hr, ht, hb, hf, hcontrol]
    · simp [glyph, Nat.le_of_not_lt hcontrol]

theorem readQuoted?_escape (c : Char) (rest : List Char) :
    readQuoted? (escape c ++ rest) =
      (readQuoted? rest).map fun p => (glyph c :: p.1, p.2) := by
  rcases escape_cases c with ⟨e, hescaped, -, hescape, hglyph⟩ | ⟨hcontrol, hescape, hglyph⟩ |
    ⟨hquote, hbackslash, hcontrol, hescape, hglyph⟩
  · rw [hescape, hglyph]
    exact readQuoted?_escaped hescaped rest
  · have hunit :=
      readQuoted?_unit (a := c.toNat / 16) (b := c.toNat % 16) (by omega) (by omega) rest
    rw [Nat.div_add_mod'] at hunit
    rw [hescape, hglyph]
    exact hunit
  · rw [hescape, hglyph]
    exact readQuoted?_plain hquote hbackslash hcontrol rest

/-- A quoted text is read through the closing quote. -/
theorem readQuoted?_flatMap_escape (cs rest : List Char) :
    readQuoted? (cs.flatMap escape ++ '"' :: rest) = some (cs.map glyph, rest) := by
  induction cs with
  | nil => rfl
  | cons c cs ih =>
    rw [List.flatMap_cons, List.append_assoc, readQuoted?_escape, ih]
    rfl

theorem readQuoted?_quote (s : String) (rest : List Char) :
    ∃ cs, quote s ++ rest = '"' :: cs ∧ readQuoted? cs = some (s.toList.map glyph, rest) := by
  refine ⟨s.toList.flatMap escape ++ '"' :: rest, ?_, readQuoted?_flatMap_escape _ _⟩
  simp [quote]

/-! ## Values -/

mutual

/-- What the text of a value consists of. -/
def written : Json → Written
  | .null => .null
  | .bool b => .bool b
  | .number n => .number n.numeral
  | .string s => .string (s.toList.map glyph)
  | .array items => .array (writtenItems items)
  | .object members => .object (writtenMembers members)

def writtenItems : List Json → List Written
  | [] => []
  | v :: vs => v.written :: writtenItems vs

def writtenMembers : List (String × Json) → List (List Glyph × Written)
  | [] => []
  | (name, v) :: ms => (name.toList.map glyph, v.written) :: writtenMembers ms

end

theorem skipSpace_cons {c : Char} (h : isSpace c = false) (cs : List Char) :
    skipSpace (c :: cs) = c :: cs := by
  rw [skipSpace, List.dropWhile_cons_of_neg (by simp [h])]

/-- What starts like a numeral is nothing else. -/
theorem ne_of_starts {c d : Char} (hc : c.isDigit = true ∨ c = '-') (hdigit : d.isDigit = false)
    (hminus : d ≠ '-') : c ≠ d := by
  rintro rfl
  rcases hc with hc | hc
  · rw [hc] at hdigit
    cases hdigit
  · exact hminus hc

theorem isSpace_of_starts {c : Char} (hc : c.isDigit = true ∨ c = '-') : isSpace c = false := by
  have hblank : c ≠ ' ' := ne_of_starts hc (by decide) (by decide)
  have hbreak : c ≠ '\n' := ne_of_starts hc (by decide) (by decide)
  have htab : c ≠ '\t' := ne_of_starts hc (by decide) (by decide)
  have hreturn : c ≠ '\r' := ne_of_starts hc (by decide) (by decide)
  simp [isSpace, hblank, hbreak, htab, hreturn]

theorem readValue?_text_numeral {n : Numeral} (hn : n.WellFormed) {rest : List Char}
    (hrest : Ends rest) (fuel : Nat) :
    readValue? (fuel + 1) (n.text ++ rest) = some (.number n, rest) := by
  obtain ⟨c, cs, htext, hc⟩ := exists_cons_text_numeral hn
  have hread := readNumeral?_text hn hrest
  rw [htext, List.cons_append] at hread ⊢
  rw [readValue?, skipSpace_cons (isSpace_of_starts hc)]
  split
  · next heq => exact absurd (List.cons.inj heq).1 (ne_of_starts hc (by decide) (by decide))
  · next heq => exact absurd (List.cons.inj heq).1 (ne_of_starts hc (by decide) (by decide))
  · next heq => exact absurd (List.cons.inj heq).1 (ne_of_starts hc (by decide) (by decide))
  · next heq => exact absurd (List.cons.inj heq).1 (ne_of_starts hc (by decide) (by decide))
  · next heq => exact absurd (List.cons.inj heq).1 (ne_of_starts hc (by decide) (by decide))
  · next heq => exact absurd (List.cons.inj heq).1 (ne_of_starts hc (by decide) (by decide))
  · rw [hread]
    rfl

/-- The first character of a value is no space and no bracket that closes. -/
theorem exists_cons_compact (v : Json) :
    ∃ c cs, v.compact = c :: cs ∧ isSpace c = false ∧ c ≠ ']' := by
  cases v with
  | null => exact ⟨'n', _, rfl, by decide, by decide⟩
  | bool b =>
    cases b with
    | true => exact ⟨'t', _, rfl, by decide, by decide⟩
    | false => exact ⟨'f', _, rfl, by decide, by decide⟩
  | number n =>
    obtain ⟨c, cs, htext, hc⟩ := exists_cons_text_numeral n.wellFormed_numeral
    rw [n.text_numeral] at htext
    exact ⟨c, cs, htext, isSpace_of_starts hc, ne_of_starts hc (by decide) (by decide)⟩
  | string s => exact ⟨'"', _, rfl, by decide, by decide⟩
  | array items => exact ⟨'[', _, rfl, by decide, by decide⟩
  | object members => exact ⟨'{', _, rfl, by decide, by decide⟩

theorem length_compact_pos (v : Json) : 0 < v.compact.length := by
  obtain ⟨c, cs, htext, -, -⟩ := exists_cons_compact v
  rw [htext]
  exact Nat.succ_pos _

theorem compactItems_cons_cons (v v' : Json) (vs : List Json) :
    compactItems (v :: v' :: vs) = v.compact ++ ',' :: compactItems (v' :: vs) := by
  rw [compactItems]
  simp

theorem compactMembers_cons_cons (name : String) (v : Json) (m : String × Json)
    (ms : List (String × Json)) :
    compactMembers ((name, v) :: m :: ms) =
      quote name ++ ':' :: v.compact ++ ',' :: compactMembers (m :: ms) := by
  rw [compactMembers]
  simp

theorem exists_cons_compactItems (v : Json) (vs : List Json) :
    ∃ c cs, compactItems (v :: vs) = c :: cs ∧ isSpace c = false ∧ c ≠ ']' := by
  obtain ⟨c, cs, htext, hspace, hne⟩ := exists_cons_compact v
  cases vs with
  | nil => exact ⟨c, _, by rw [compactItems, htext, List.cons_append], hspace, hne⟩
  | cons v' vs => exact ⟨c, _, by rw [compactItems_cons_cons, htext, List.cons_append], hspace, hne⟩

theorem exists_cons_compactMembers (name : String) (v : Json) (ms : List (String × Json)) :
    ∃ cs, compactMembers ((name, v) :: ms) = '"' :: cs := by
  cases ms with
  | nil => exact ⟨_, rfl⟩
  | cons m ms => exact ⟨_, rfl⟩

theorem ends_nil : Ends [] := by simp [Ends]

theorem ends_cons {c : Char} (h : c = ',' ∨ c = ']' ∨ c = '}') (rest : List Char) :
    Ends (c :: rest) := by
  intro d hd
  obtain rfl : c = d := Option.some.inj hd
  rcases h with rfl | rfl | rfl <;> decide

/-! ### One step of the reader -/

theorem readValue?_string {cs rest : List Char} {glyphs : List Glyph}
    (h : readQuoted? cs = some (glyphs, rest)) (fuel : Nat) :
    readValue? (fuel + 1) ('"' :: cs) = some (.string glyphs, rest) := by
  rw [readValue?, skipSpace_cons (by decide)]
  simp only [h, Option.map_some]

theorem readValue?_array {c : Char} (hspace : isSpace c = false) (hne : c ≠ ']')
    {cs rest : List Char} {items : List Written} {fuel : Nat}
    (h : readItems? fuel (c :: cs) = some (items, rest)) :
    readValue? (fuel + 1) ('[' :: c :: cs) = some (.array items, rest) := by
  rw [readValue?, skipSpace_cons (by decide)]
  simp only [skipSpace_cons hspace]
  split
  · next heq => exact absurd (List.cons.inj heq).1 hne
  · rw [h]
    rfl

theorem readValue?_object {cs rest : List Char} {members : List (List Glyph × Written)}
    {fuel : Nat} (h : readMembers? fuel ('"' :: cs) = some (members, rest)) :
    readValue? (fuel + 1) ('{' :: '"' :: cs) = some (.object members, rest) := by
  rw [readValue?, skipSpace_cons (by decide)]
  simp only [skipSpace_cons (show isSpace '"' = false by decide)]
  split
  · next heq => exact absurd (List.cons.inj heq).1 (by decide)
  · rw [h]
    rfl

theorem readItems?_last {cs rest : List Char} {v : Written} {fuel : Nat}
    (h : readValue? fuel cs = some (v, ']' :: rest)) :
    readItems? (fuel + 1) cs = some ([v], rest) := by
  rw [readItems?, h]
  rfl

theorem readItems?_more {cs cs' rest : List Char} {v : Written} {vs : List Written} {fuel : Nat}
    (h : readValue? fuel cs = some (v, ',' :: cs'))
    (hmore : readItems? fuel cs' = some (vs, rest)) :
    readItems? (fuel + 1) cs = some (v :: vs, rest) := by
  rw [readItems?, h]
  simp [skipSpace_cons (show isSpace ',' = false by decide), hmore]

theorem readMembers?_last {cs cs' rest : List Char} {name : List Glyph} {v : Written} {fuel : Nat}
    (hname : readQuoted? cs = some (name, ':' :: cs'))
    (h : readValue? fuel cs' = some (v, '}' :: rest)) :
    readMembers? (fuel + 1) ('"' :: cs) = some ([(name, v)], rest) := by
  rw [readMembers?, skipSpace_cons (by decide)]
  simp [hname, skipSpace_cons (show isSpace ':' = false by decide), h,
    skipSpace_cons (show isSpace '}' = false by decide)]

theorem readMembers?_more {cs cs' cs'' rest : List Char} {name : List Glyph} {v : Written}
    {ms : List (List Glyph × Written)} {fuel : Nat}
    (hname : readQuoted? cs = some (name, ':' :: cs'))
    (h : readValue? fuel cs' = some (v, ',' :: cs''))
    (hmore : readMembers? fuel cs'' = some (ms, rest)) :
    readMembers? (fuel + 1) ('"' :: cs) = some ((name, v) :: ms, rest) := by
  rw [readMembers?, skipSpace_cons (by decide)]
  simp [hname, skipSpace_cons (show isSpace ':' = false by decide), h,
    skipSpace_cons (show isSpace ',' = false by decide), hmore]

/-! ### All steps -/

mutual

/-- The text of a value is read as what it consists of, with the length of the text for fuel. -/
theorem readValue?_compact (fuel : Nat) (v : Json) (rest : List Char) (hrest : Ends rest)
    (hfuel : v.compact.length ≤ fuel) :
    readValue? fuel (v.compact ++ rest) = some (v.written, rest) := by
  match fuel, v with
  | 0, v => exact absurd v.length_compact_pos (Nat.not_lt.mpr hfuel)
  | fuel + 1, .null => rfl
  | fuel + 1, .bool true => rfl
  | fuel + 1, .bool false => rfl
  | fuel + 1, .number n =>
    rw [compact, ← n.text_numeral]
    exact readValue?_text_numeral n.wellFormed_numeral hrest fuel
  | fuel + 1, .string s =>
    obtain ⟨cs, hquote, hread⟩ := readQuoted?_quote s rest
    rw [compact, hquote]
    exact readValue?_string hread fuel
  | fuel + 1, .array [] => rfl
  | fuel + 1, .array (v :: vs) =>
    have hlength : (compactItems (v :: vs)).length ≤ fuel := by
      rw [compact, List.length_cons] at hfuel
      omega
    have hitems := readItems?_compact fuel v vs rest hlength
    obtain ⟨c, cs, hstart, hspace, hne⟩ := exists_cons_compactItems v vs
    rw [hstart] at hitems
    rw [compact, hstart]
    exact readValue?_array hspace hne hitems
  | fuel + 1, .object [] => rfl
  | fuel + 1, .object ((name, v) :: ms) =>
    have hlength : (compactMembers ((name, v) :: ms)).length ≤ fuel := by
      rw [compact, List.length_cons] at hfuel
      omega
    have hmembers := readMembers?_compact fuel name v ms rest hlength
    obtain ⟨cs, hstart⟩ := exists_cons_compactMembers name v ms
    rw [hstart] at hmembers
    rw [compact, hstart]
    exact readValue?_object hmembers

/-- The text of items is read through the closing bracket. -/
theorem readItems?_compact (fuel : Nat) (v : Json) (vs : List Json) (rest : List Char)
    (hfuel : (compactItems (v :: vs)).length ≤ fuel) :
    readItems? fuel (compactItems (v :: vs) ++ rest) = some (writtenItems (v :: vs), rest) := by
  match fuel, vs with
  | 0, vs =>
    obtain ⟨c, cs, hstart, -, -⟩ := exists_cons_compactItems v vs
    rw [hstart] at hfuel
    cases hfuel
  | fuel + 1, [] =>
    rw [compactItems, List.length_append, List.length_singleton] at hfuel
    have hvalue := readValue?_compact fuel v (']' :: rest) (ends_cons (by simp) rest) (by omega)
    rw [compactItems, List.append_assoc]
    exact readItems?_last hvalue
  | fuel + 1, v' :: vs =>
    rw [compactItems_cons_cons, List.length_append, List.length_cons] at hfuel
    have hvalue := readValue?_compact fuel v (',' :: (compactItems (v' :: vs) ++ rest))
      (ends_cons (by simp) _) (by omega)
    have hmore := readItems?_compact fuel v' vs rest (by omega)
    rw [compactItems_cons_cons, List.append_assoc]
    exact readItems?_more hvalue hmore

/-- The text of members is read through the closing brace. -/
theorem readMembers?_compact (fuel : Nat) (name : String) (v : Json) (ms : List (String × Json))
    (rest : List Char) (hfuel : (compactMembers ((name, v) :: ms)).length ≤ fuel) :
    readMembers? fuel (compactMembers ((name, v) :: ms) ++ rest) =
      some (writtenMembers ((name, v) :: ms), rest) := by
  match fuel, ms with
  | 0, ms =>
    obtain ⟨cs, hstart⟩ := exists_cons_compactMembers name v ms
    rw [hstart] at hfuel
    cases hfuel
  | fuel + 1, [] =>
    obtain ⟨cs, hquote, hname⟩ := readQuoted?_quote name (':' :: (v.compact ++ '}' :: rest))
    simp only [compactMembers, List.length_append, List.length_cons, List.length_nil] at hfuel
    have hvalue := readValue?_compact fuel v ('}' :: rest) (ends_cons (by simp) rest) (by omega)
    have htext : compactMembers [(name, v)] ++ rest =
        quote name ++ ':' :: (v.compact ++ '}' :: rest) := by simp [compactMembers]
    rw [htext, hquote]
    exact readMembers?_last hname hvalue
  | fuel + 1, (name', v') :: ms =>
    obtain ⟨cs, hquote, hname⟩ := readQuoted?_quote name
      (':' :: (v.compact ++ ',' :: (compactMembers ((name', v') :: ms) ++ rest)))
    simp only [compactMembers_cons_cons, List.length_append, List.length_cons] at hfuel
    have hvalue := readValue?_compact fuel v (',' :: (compactMembers ((name', v') :: ms) ++ rest))
      (ends_cons (by simp) _) (by omega)
    have hmore := readMembers?_compact fuel name' v' ms rest (by omega)
    have htext : compactMembers ((name, v) :: (name', v') :: ms) ++ rest = quote name ++
        ':' :: (v.compact ++ ',' :: (compactMembers ((name', v') :: ms) ++ rest)) := by
      simp [compactMembers_cons_cons]
    rw [htext, hquote]
    exact readMembers?_more hname hvalue hmore

end

/-- The compact text of a value is one JSON text. -/
theorem read?_compact (v : Json) : Written.read? v.compact = some v.written := by
  have hread := readValue?_compact (v.compact.length + 1) v [] ends_nil (Nat.le_succ _)
  rw [List.append_nil] at hread
  rw [Written.read?, hread]
  rfl

/-! ## One line -/

/-- No control character stands in a text. -/
def Plain (cs : List Char) : Prop :=
  ∀ c ∈ cs, 0x20 ≤ c.toNat

instance (cs : List Char) : Decidable (Plain cs) :=
  decidable_of_iff (cs.all fun c => decide (0x20 ≤ c.toNat)) (by simp [Plain])

theorem plain_append {cs ds : List Char} (hcs : Plain cs) (hds : Plain ds) : Plain (cs ++ ds) :=
  fun c hc => (List.mem_append.mp hc).elim (hcs c) (hds c)

theorem plain_cons {c : Char} {cs : List Char} (hc : 0x20 ≤ c.toNat) (hcs : Plain cs) :
    Plain (c :: cs) :=
  List.forall_mem_cons.mpr ⟨hc, hcs⟩

theorem plain_nil : Plain [] := by decide

theorem plain_escape (c : Char) : Plain (escape c) := by
  have hdigit : ∀ n < 16, 0x20 ≤ (hexDigit n).toNat := by decide
  rcases escape_cases c with ⟨e, -, he, hescape, -⟩ | ⟨hcontrol, hescape, -⟩ |
    ⟨-, -, hcontrol, hescape, -⟩
  · rw [hescape]
    exact plain_cons (by decide) (plain_cons he plain_nil)
  · have hmark : Plain ['\\', 'u', '0', '0'] := by decide
    have hnumber : Plain [hexDigit (c.toNat / 16), hexDigit (c.toNat % 16)] :=
      plain_cons (hdigit _ (by omega)) (plain_cons (hdigit _ (by omega)) plain_nil)
    rw [hescape]
    exact plain_append hmark hnumber
  · rw [hescape]
    exact plain_cons hcontrol plain_nil

theorem plain_quote (s : String) : Plain (quote s) := by
  refine plain_cons (by decide) (plain_append ?_ (plain_cons (by decide) plain_nil))
  intro c hc
  obtain ⟨d, -, hd⟩ := List.mem_flatMap.mp hc
  exact plain_escape d c hd

theorem plain_text (n : JsonNumber) : Plain n.text := by
  intro c hc
  rw [← n.text_numeral] at hc
  rcases mem_text_numeral n.wellFormed_numeral hc with hdigit | rfl | rfl | rfl | rfl
  · simp only [Char.isDigit, Bool.and_eq_true, decide_eq_true_eq] at hdigit
    have hle : 48 ≤ c.toNat := UInt32.le_iff_toNat_le.mp hdigit.1
    omega
  all_goals decide

mutual

theorem plain_compact (v : Json) : Plain v.compact := by
  match v with
  | .null => decide
  | .bool true => decide
  | .bool false => decide
  | .number n => exact plain_text n
  | .string s => exact plain_quote s
  | .array items => exact plain_cons (by decide) (plain_compactItems items)
  | .object members => exact plain_cons (by decide) (plain_compactMembers members)

theorem plain_compactItems (vs : List Json) : Plain (compactItems vs) := by
  match vs with
  | [] => exact plain_cons (by decide) plain_nil
  | [v] => exact plain_append (plain_compact v) (plain_cons (by decide) plain_nil)
  | v :: v' :: vs =>
    rw [compactItems_cons_cons]
    exact plain_append (plain_compact v) (plain_cons (by decide) (plain_compactItems (v' :: vs)))

theorem plain_compactMembers (ms : List (String × Json)) : Plain (compactMembers ms) := by
  match ms with
  | [] => exact plain_cons (by decide) plain_nil
  | [(name, v)] =>
    have hvalue := plain_cons (c := ':') (by decide) (plain_compact v)
    exact plain_append (plain_append (plain_quote name) hvalue) (plain_cons (by decide) plain_nil)
  | (name, v) :: m :: ms =>
    have hvalue := plain_cons (c := ':') (by decide) (plain_compact v)
    have hmore := plain_cons (c := ',') (by decide) (plain_compactMembers (m :: ms))
    rw [compactMembers_cons_cons]
    exact plain_append (plain_append (plain_quote name) hvalue) hmore

end

/-- The compact text of a value is one line. -/
theorem newLine_not_mem_compact (v : Json) : '\n' ∉ v.compact := by
  intro hmem
  exact absurd (plain_compact v '\n' hmem) (by decide)

end Switchboard.Json
