import Switchboard.Proofs.Filling

/-!
# Placeholders by offsets

A path can be scanned without being taken apart: look for the first opening brace, then for the
first closing brace in what starts there, and cut name and rest out of the text. All places are
offsets in octets, and that of the closing brace counts from the opening one, so an offset that is
off by one may lie inside a character, or one octet beside the name.

`turn_of_next?_eq_some` says that this does not happen: whatever the text, a turn cuts between
characters only, and cuts out what stands between the braces. So a scan comes to an end with the
names of the template (`scans_iff`), and these belong to the one way of taking it apart
(`pathParams_scanned`).
-/

namespace Switchboard

namespace Template

/-! ## Offsets -/

/-- The offset of the first `c`, in octets. -/
def offset? (c : Char) (text : String) : Option Nat :=
  (text.find? c).map (·.offset.byteIdx)

theorem offset?_eq_none {c : Char} {text : String} (h : c ∉ text.toList) :
    offset? c text = none := by
  rw [offset?, Option.map_eq_none_iff, Option.eq_none_iff_forall_not_mem]
  intro pos hpos
  obtain ⟨before, after, hsplits, -⟩ := String.find?_char_eq_some_iff_splits.mp hpos
  exact h (by simp [hsplits.eq_append])

theorem offset?_append {c : Char} {before : String} (h : c ∉ before.toList) (after : String) :
    offset? c (before ++ (String.singleton c ++ after)) = some before.utf8ByteSize := by
  have hfind := String.find?_char_eq_some_iff_splits.mpr
    ⟨before, after, String.Pos.splits_append_rawEndPos, h⟩
  rw [offset?, hfind]
  rfl

/-- The part of a text between two offsets, unless one of them lies inside a character or beyond the
end, or they are the wrong way round. -/
def slice? (text : String) (start stop : Nat) : Option String :=
  if h : (⟨start⟩ : String.Pos.Raw).IsValid text ∧ (⟨stop⟩ : String.Pos.Raw).IsValid text ∧
      start ≤ stop then
    some (text.slice (text.pos ⟨start⟩ h.1) (text.pos ⟨stop⟩ h.2.1) h.2.2).copy
  else none

/-- Offsets between characters are the sizes of what stands before them. -/
theorem slice?_eq_some {text part : String} {start stop : Nat} :
    slice? text start stop = some part ↔ ∃ before after : String,
      text = before ++ (part ++ after) ∧ start = before.utf8ByteSize ∧
        stop = (before ++ part).utf8ByteSize := by
  constructor
  · intro h
    unfold slice? at h
    split at h
    · next hvalid =>
      obtain ⟨before, after, hstart, hstop⟩ :=
        String.copy_slice_eq_iff_splits.mp ⟨hvalid.2.2, Option.some.inj h⟩
      exact ⟨before, after, hstart.eq_append,
        congrArg String.Pos.Raw.byteIdx hstart.offset_eq_rawEndPos,
        congrArg String.Pos.Raw.byteIdx hstop.offset_eq_rawEndPos⟩
    · cases h
  · rintro ⟨before, after, rfl, rfl, rfl⟩
    have hassoc : before ++ (part ++ after) = before ++ part ++ after :=
      (String.append_assoc ..).symm
    have hstart : before.rawEndPos.IsValid (before ++ (part ++ after)) :=
      String.Pos.Raw.isValid_rawEndPos.append_right _
    have hstop : (before ++ part).rawEndPos.IsValid (before ++ (part ++ after)) :=
      hassoc ▸ String.Pos.Raw.isValid_rawEndPos.append_right after
    obtain ⟨horder, hpart⟩ := (@String.copy_slice_eq_iff_splits part _
      (String.pos _ _ hstart) (String.pos _ _ hstop)).mpr
      ⟨before, after, ⟨rfl, rfl⟩, ⟨hassoc, rfl⟩⟩
    rw [slice?, dif_pos ⟨hstart, hstop, horder⟩]
    exact congrArg some hpart

/-- An offset after the first octet of a character of two. -/
example : slice? "é\x7d" 1 3 = none := by decide +kernel

/-! ## Turns of a scan -/

/-- What a look for the next placeholder comes to. -/
inductive Turn where
  /-- There is none. -/
  | ended
  | found (name rest : String)
  /-- A slice would begin or end inside a character. -/
  | torn
  deriving Repr, DecidableEq

/-- Looks for the next placeholder. -/
def turn (text : String) : Turn :=
  match offset? '\x7b' text with
  | none => .ended
  | some start =>
    match slice? text start text.utf8ByteSize with
    | none => .torn
    | some opened =>
      match offset? '\x7d' opened with
      | none => .ended
      | some length =>
        -- the slice that was searched starts with the opening brace
        match slice? text (start + 1) (start + length),
          slice? text (start + length + 1) text.utf8ByteSize with
        | some name, some rest => .found name rest
        | _, _ => .torn

theorem turn_of_unopened {text : String} (h : '\x7b' ∉ text.toList) : turn text = .ended := by
  rw [turn, offset?_eq_none h]

/-- The text from the opening brace on, by its offset. -/
theorem slice?_from (before after : String) :
    slice? (before ++ after) before.utf8ByteSize (before ++ after).utf8ByteSize = some after :=
  slice?_eq_some.mpr ⟨before, "", by rw [String.append_empty], rfl, rfl⟩

theorem turn_of_unclosed {before after : String} (hbefore : '\x7b' ∉ before.toList)
    (hafter : '\x7d' ∉ after.toList) :
    turn (before ++ (String.singleton '\x7b' ++ after)) = .ended := by
  have hclosing : offset? '\x7d' (String.singleton '\x7b' ++ after) = none :=
    offset?_eq_none (by simpa using hafter)
  simp only [turn, offset?_append hbefore, slice?_from, hclosing]

/-- Both braces take one octet, so the name starts one octet after the first, and the rest one octet
after the second. -/
theorem turn_of_placeholder {literal name : String} (hliteral : '\x7b' ∉ literal.toList)
    (hname : '\x7d' ∉ name.toList) (rest : String) :
    turn (literal ++ (String.singleton '\x7b' ++ (name ++ (String.singleton '\x7d' ++ rest)))) =
      .found name rest := by
  have hopening : (String.singleton '\x7b').utf8ByteSize = 1 := by decide
  have hclosing : (String.singleton '\x7d').utf8ByteSize = 1 := by decide
  generalize htext : literal ++ (String.singleton '\x7b' ++
    (name ++ (String.singleton '\x7d' ++ rest))) = text
  have hstart : offset? '\x7b' text = some literal.utf8ByteSize :=
    htext ▸ offset?_append hliteral _
  have hopened : slice? text literal.utf8ByteSize text.utf8ByteSize =
      some (String.singleton '\x7b' ++ (name ++ (String.singleton '\x7d' ++ rest))) :=
    htext ▸ slice?_from _ _
  have hlength : offset? '\x7d' (String.singleton '\x7b' ++
      (name ++ (String.singleton '\x7d' ++ rest))) = some (1 + name.utf8ByteSize) := by
    rw [← String.append_assoc, offset?_append (by simpa using hname), String.utf8ByteSize_append,
      hopening]
  have hcut : slice? text (literal.utf8ByteSize + 1)
      (literal.utf8ByteSize + (1 + name.utf8ByteSize)) = some name := by
    refine slice?_eq_some.mpr ⟨literal ++ String.singleton '\x7b', String.singleton '\x7d' ++ rest,
      ?_, ?_, ?_⟩
    · rw [← htext, String.append_assoc]
    · rw [String.utf8ByteSize_append, hopening]
    · simp only [String.utf8ByteSize_append, hopening]
      omega
  have hrest : slice? text (literal.utf8ByteSize + (1 + name.utf8ByteSize) + 1)
      text.utf8ByteSize = some rest := by
    refine slice?_eq_some.mpr
      ⟨literal ++ String.singleton '\x7b' ++ name ++ String.singleton '\x7d', "", ?_, ?_, ?_⟩
    · rw [← htext]
      simp only [String.append_assoc, String.append_empty]
    · simp only [String.utf8ByteSize_append, hopening, hclosing]
      omega
    · rw [← htext]
      simp only [String.append_assoc]
  simp only [turn, hstart, hopened, hlength, hcut, hrest]

/-! ## Turns and pieces -/

theorem turn_of_next?_eq_none {text : String} (h : next? text.toList = none) :
    turn text = .ended := by
  cases hopen : cut? '\x7b' text.toList with
  | none => exact turn_of_unopened (cut?_eq_none.mp hopen)
  | some halves =>
    obtain ⟨before, after⟩ := halves
    obtain ⟨htext, hbefore⟩ := cut?_eq_some hopen
    have hafter : '\x7d' ∉ after := by
      refine cut?_eq_none.mp (Option.eq_none_iff_forall_not_mem.mpr fun parts hclose => ?_)
      rw [next?, hopen] at h
      simp [Option.mem_def.mp hclose] at h
    rw [show text = String.ofList before ++ (String.singleton '\x7b' ++ String.ofList after) from
      String.toList_inj.mp (by simp [htext])]
    exact turn_of_unclosed (by simpa using hbefore) (by simpa using hafter)

/-- A text as it is before, in and after its first placeholder. -/
theorem eq_append_of_next?_eq_some {text : String} {literal name after : List Char}
    (h : next? text.toList = some (literal, name, after)) :
    text = String.ofList literal ++ (String.singleton '\x7b' ++ (String.ofList name ++
      (String.singleton '\x7d' ++ String.ofList after))) :=
  String.toList_inj.mp (by simp [(next?_eq_some h).1])

theorem turn_of_next?_eq_some {text : String} {literal name after : List Char}
    (h : next? text.toList = some (literal, name, after)) :
    turn text = .found (String.ofList name) (String.ofList after) := by
  obtain ⟨-, hliteral, hname⟩ := next?_eq_some h
  rw [eq_append_of_next?_eq_some h]
  exact turn_of_placeholder (by simpa using hliteral) (by simpa using hname) _

/-- No turn cuts a character. -/
theorem turn_ne_torn (text : String) : turn text ≠ .torn := by
  cases h : next? text.toList with
  | none => simp [turn_of_next?_eq_none h]
  | some parts => simp [turn_of_next?_eq_some h]

/-- What a turn leaves is shorter than the text. -/
theorem utf8ByteSize_lt_of_turn {text name rest : String} (h : turn text = .found name rest) :
    rest.utf8ByteSize < text.utf8ByteSize := by
  cases hnext : next? text.toList with
  | none =>
    rw [turn_of_next?_eq_none hnext] at h
    cases h
  | some parts =>
    obtain ⟨literal, name', after⟩ := parts
    obtain ⟨rfl, rfl⟩ := Turn.found.inj ((turn_of_next?_eq_some hnext).symm.trans h)
    rw [eq_append_of_next?_eq_some hnext]
    simp only [String.utf8ByteSize_append, String.utf8ByteSize_singleton]
    have hpos := Char.utf8Size_pos '\x7b'
    omega

/-! ## Scans -/

/-- A scan that ends, and the names that it finds: turn after turn, as long as one finds a name. A
scan that cuts a character has no names. -/
inductive Scans : String → List String → Prop
  | ended {text : String} (h : turn text = .ended) : Scans text []
  | found {text name rest : String} {names : List String} (h : turn text = .found name rest)
      (hrest : Scans rest names) : Scans text (name :: names)

/-- By induction on the pieces: every turn finds the next of them, and what it leaves is shorter. -/
theorem scans_pieces (cs : List Char) :
    Scans (String.ofList cs) ((pieces cs).1.map fun p => String.ofList p.2) := by
  fun_induction pieces cs with
  | case1 cs h => exact .ended (turn_of_next?_eq_none (by rwa [String.toList_ofList]))
  | case2 cs literal name after h _ pairs last hp ih =>
    rw [hp] at ih
    exact .found (turn_of_next?_eq_some (by rwa [String.toList_ofList])) ih

theorem Scans.unique {text : String} {names names' : List String} (h : Scans text names)
    (h' : Scans text names') : names = names' := by
  induction h generalizing names' with
  | ended h =>
    cases h' with
    | ended _ => rfl
    | found h' _ => cases h.symm.trans h'
  | found h _ ih =>
    cases h' with
    | ended h' => cases h.symm.trans h'
    | found h' hrest' =>
      obtain ⟨rfl, rfl⟩ := Turn.found.inj (h.symm.trans h')
      rw [ih hrest']

/-- Every scan ends, with the names of the template. -/
theorem scans_iff {text : String} {found : List String} :
    Scans text found ↔ found = names text := by
  have hscans : Scans text (names text) := by
    have hpieces := scans_pieces text.toList
    rwa [String.ofList_toList] at hpieces
  exact ⟨fun h => h.unique hscans, fun h => h ▸ hscans⟩

end Template

namespace Endpoint

/-- Whatever the path, no turn of a scan cuts a character, each leaves less than it was given, and
the scan ends, with the names of the placeholders. They belong to the one way of taking the path
apart into literal texts and names: no literal text before a name has an opening brace, no name has
a closing brace, and in the literal text at the end no opening brace is followed by a closing one. -/
theorem pathParams_scanned (e : Endpoint) :
    (∀ text, Template.turn text ≠ .torn) ∧
    (∀ text name rest, Template.turn text = .found name rest →
      rest.utf8ByteSize < text.utf8ByteSize) ∧
    (∀ names, Template.Scans e.path names ↔ names = e.pathParams) ∧
    ∃ pairs last,
      (Template.IsPartedInto e.path.toList pairs last ∧
        e.pathParams = pairs.map fun p => String.ofList p.2) ∧
      ∀ pairs' last', Template.IsPartedInto e.path.toList pairs' last' →
        pairs' = pairs ∧ last' = last :=
  ⟨Template.turn_ne_torn, fun _ _ _ => Template.utf8ByteSize_lt_of_turn,
    fun _ => Template.scans_iff, _, _, ⟨Template.isPartedInto_pieces _, rfl⟩,
    fun _ _ => Template.isPartedInto_iff.mp⟩

end Endpoint

end Switchboard
