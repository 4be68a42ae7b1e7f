import Switchboard.Proofs.Rendering

/-!
# Placeholders filled at once

What a path comes to, said without the order in which its placeholders are filled. A template is
taken apart in one way only (`Template.isPartedInto_iff`); with a fitting argument for every name,
the path is its literal texts with those arguments between them, and without one, the error is about
the first name that lacks it (`renderPath_filled_at_once`).
-/

namespace Switchboard

/-! ## Arguments -/

/-- Values that have a text, and their texts. -/
inductive Json.HasText : Json → String → Prop
  | string (s : String) : HasText (.string s) s
  | number (n : JsonNumber) : HasText (.number n) (String.ofList n.text)
  | true : HasText (.bool true) "true"
  | false : HasText (.bool false) "false"

/-- A text for a placeholder: not empty, no dot segment, and nothing but letters and digits of ASCII
and a few marks. -/
structure FitsSegment (text : String) : Prop where
  ne_empty : text ≠ ""
  ne_dot : text ≠ "."
  ne_dots : text ≠ ".."
  chars : ∀ c ∈ text.toList,
    c.isAlphanum = true ∨ c ∈ ['-', '.', '_', '~', '*', ',', '+', '=']

theorem isSegment_iff {text : String} : isSegment text = true ↔ FitsSegment text := by
  have hchar (c : Char) : isSegmentChar c = true ↔
      c.isAlphanum = true ∨ c ∈ ['-', '.', '_', '~', '*', ',', '+', '='] := by
    simp [isSegmentChar, or_assoc]
  simp only [isSegment, Bool.and_eq_true, decide_eq_true_eq, List.all_eq_true, hchar, and_assoc]
  constructor
  · rintro ⟨hempty, hdot, hdots, hchars⟩
    exact ⟨hempty, hdot, hdots, hchars⟩
  · exact fun h => ⟨h.ne_empty, h.ne_dot, h.ne_dots, h.chars⟩

/-- Whether arguments hold a value with this text under a name. -/
def HoldsText (arguments : Json) (name text : String) : Prop :=
  ∃ v, arguments.get? name = some v ∧ v.HasText text

/-- Whether arguments hold nothing under a name, or a value without text. -/
def LacksText (arguments : Json) (name : String) : Prop :=
  arguments.get? name = none ∨ arguments.get? name = some .null ∨
    (∃ items, arguments.get? name = some (.array items)) ∨
    ∃ members, arguments.get? name = some (.object members)

/-- Whether arguments hold a text for a placeholder. -/
def Fills (arguments : Json) (name text : String) : Prop :=
  HoldsText arguments name text ∧ FitsSegment text

section

variable {arguments : Json} {name text : String}

theorem argumentText?_eq_some :
    argumentText? arguments name = some text ↔ HoldsText arguments name text := by
  unfold argumentText?
  constructor
  · intro h
    split at h
    · next s hget => exact ⟨_, hget, Option.some.inj h ▸ .string s⟩
    · next n hget => exact ⟨_, hget, Option.some.inj h ▸ .number n⟩
    · next b hget =>
      obtain rfl := Option.some.inj h
      cases b with
      | true => exact ⟨_, hget, .true⟩
      | false => exact ⟨_, hget, .false⟩
    · cases h
  · rintro ⟨v, hget, htext⟩
    rw [hget]
    cases htext <;> rfl

theorem argumentText?_eq_none :
    argumentText? arguments name = none ↔ LacksText arguments name := by
  unfold argumentText? LacksText
  cases arguments.get? name with
  | none => simp
  | some v => cases v <;> simp

theorem fills_iff :
    Fills arguments name text ↔
      argumentText? arguments name = some text ∧ isSegment text = true := by
  rw [Fills, argumentText?_eq_some, isSegment_iff]

theorem Fills.filler_eq (h : Fills arguments name text) : filler arguments name = text := by
  rw [filler, (fills_iff.mp h).1, Option.getD_some]

theorem fills_filler_iff :
    Fills arguments name (filler arguments name) ↔
      isSegment (filler arguments name) = true := by
  rw [fills_iff, and_iff_right_iff_imp, filler]
  cases argumentText? arguments name with
  | none => simp [isSegment]
  | some text => simp

theorem exists_fills_iff :
    (∃ text, Fills arguments name text) ↔ isSegment (filler arguments name) = true := by
  rw [← fills_filler_iff]
  constructor
  · rintro ⟨text, h⟩
    rwa [h.filler_eq]
  · exact fun h => ⟨_, h⟩

end

/-! ## The parts of a template -/

namespace Template

/-- A template taken apart, into literal texts with the name that follows each, and the literal text
at the end. Literal text goes up to an opening brace, a name up to the first closing brace after it;
at the end no brace that is opened is closed. -/
structure IsPartedInto (cs : List Char) (pairs : List (List Char × List Char))
    (last : List Char) : Prop where
  rejoin_eq : rejoin pairs last = cs
  literal : ∀ p ∈ pairs, '\x7b' ∉ p.1
  name : ∀ p ∈ pairs, '\x7d' ∉ p.2
  last : ∀ before after, last = before ++ '\x7b' :: after → '\x7d' ∉ after

theorem isPartedInto_pieces (cs : List Char) : IsPartedInto cs (pieces cs).1 (pieces cs).2 := by
  obtain ⟨hpieces, hlast⟩ := pieces_spec cs
  refine ⟨rejoin_pieces cs, fun p hp => (hpieces p hp).1, fun p hp => (hpieces p hp).2,
    fun before after hsplit hclosing => ?_⟩
  obtain ⟨before', after', hsplit', hopening, hnone⟩ := next?_eq_none hlast
  rw [hsplit] at hsplit'
  rcases List.append_eq_append_iff.mp hsplit' with ⟨between, rfl, hafter⟩ | ⟨between, rfl, rfl⟩
  · cases between with
    | nil => exact hnone (List.nil_append after' ▸ hafter ▸ List.mem_cons_of_mem _ hclosing)
    | cons c rest =>
      obtain rfl : '\x7b' = c := (List.cons.inj hafter).1
      exact hopening (List.mem_append_right _ List.mem_cons_self)
  · exact hnone (List.mem_append_right _ (List.mem_cons_of_mem _ hclosing))

theorem IsPartedInto.pieces_eq {cs : List Char} {pairs : List (List Char × List Char)}
    {last : List Char} (h : IsPartedInto cs pairs last) : pieces cs = (pairs, last) := by
  obtain ⟨rfl, hliteral, hname, hlast⟩ := h
  induction pairs with
  | nil =>
    refine pieces_of_next?_eq_none ?_
    cases hnext : next? last with
    | none => exact hnext
    | some parts =>
      obtain ⟨hsplit, -, -⟩ := next?_eq_some hnext
      exact absurd (by simp) (hlast _ _ (hsplit.trans (List.append_assoc _ _ _)))
  | cons p rest ih =>
    obtain ⟨hhere, hrest⟩ := List.forall_mem_cons.mp hliteral
    obtain ⟨hhere', hrest'⟩ := List.forall_mem_cons.mp hname
    have hjoined : rejoin (p :: rest) last =
        p.1 ++ '\x7b' :: (p.2 ++ '\x7d' :: rejoin rest last) := by
      simp [rejoin]
    rw [hjoined, pieces_of_next?_eq_some (next?_append hhere hhere' _), ih hrest hrest']

/-- A template is taken apart in one way only. -/
theorem isPartedInto_iff {cs : List Char} {pairs : List (List Char × List Char)}
    {last : List Char} :
    IsPartedInto cs pairs last ↔ pairs = (pieces cs).1 ∧ last = (pieces cs).2 := by
  constructor
  · intro h
    rw [h.pieces_eq]
    exact ⟨rfl, rfl⟩
  · rintro ⟨rfl, rfl⟩
    exact isPartedInto_pieces cs

end Template

/-! ## Paths -/

namespace Endpoint

variable {e : Endpoint} {arguments : Json}

/-- What is wrong with an argument: it has no text, or one that does not fit. -/
theorem placeholderValue_eq_error {name : String} {error : ArgumentError} :
    placeholderValue arguments name = .error error ↔
      LacksText arguments name ∧ error = .missing name ∨
        ∃ text, HoldsText arguments name text ∧ ¬ FitsSegment text ∧
          error = .invalid name text := by
  simp only [← argumentText?_eq_none, ← argumentText?_eq_some, ← isSegment_iff, placeholderValue]
  cases argumentText? arguments name with
  | none => simp [@eq_comm _ error]
  | some text => by_cases h : isSegment text = true <;> simp [h, @eq_comm _ error]

/-- Filling ends with the first placeholder that has no value. -/
theorem fillAll_eq_error {names : List String} {path : List Char} {error : ArgumentError} :
    fillAll arguments path names = .error error ↔
      ∃ before name after, names = before ++ name :: after ∧
        (∀ earlier ∈ before, isSegment (filler arguments earlier) = true) ∧
        placeholderValue arguments name = .error error := by
  induction names generalizing path with
  | nil =>
    constructor
    · intro h
      cases h
    · rintro ⟨before, name, after, hsplit, -⟩
      cases before <;> cases hsplit
  | cons first rest ih =>
    rw [fillAll]
    cases hvalue : placeholderValue arguments first with
    | error failure =>
      constructor
      · intro h
        obtain rfl := Except.error.inj h
        exact ⟨[], first, rest, rfl, List.forall_mem_nil _, hvalue⟩
      · rintro ⟨before, name, after, hsplit, hbefore, hname⟩
        cases before with
        | nil =>
          obtain ⟨rfl, -⟩ := List.cons.inj hsplit
          obtain rfl := Except.error.inj (hvalue.symm.trans hname)
          rfl
        | cons earlier before =>
          obtain ⟨rfl, -⟩ := List.cons.inj hsplit
          have hok := placeholderValue_eq_ok.mpr ⟨hbefore first List.mem_cons_self, rfl⟩
          cases hvalue.symm.trans hok
    | ok value =>
      obtain ⟨hsegment, -⟩ := placeholderValue_eq_ok.mp hvalue
      refine ih.trans ⟨?_, ?_⟩
      · rintro ⟨before, name, after, rfl, hbefore, hname⟩
        exact ⟨first :: before, name, after, rfl, List.forall_mem_cons.mpr ⟨hsegment, hbefore⟩,
          hname⟩
      · rintro ⟨before, name, after, hsplit, hbefore, hname⟩
        cases before with
        | nil =>
          obtain ⟨rfl, -⟩ := List.cons.inj hsplit
          cases hvalue.symm.trans hname
        | cons earlier before =>
          obtain ⟨rfl, rfl⟩ := List.cons.inj hsplit
          exact ⟨before, name, after, rfl, (List.forall_mem_cons.mp hbefore).2, hname⟩

theorem renderPath_eq_error {error : ArgumentError} :
    e.renderPath arguments = .error error ↔
      ∃ before name after, e.pathParams = before ++ name :: after ∧
        (∀ earlier ∈ before, isSegment (filler arguments earlier) = true) ∧
        placeholderValue arguments name = .error error := by
  refine Iff.trans ?_ (@fillAll_eq_error arguments e.pathParams e.path.toList error)
  rw [renderPath]
  cases fillAll arguments e.path.toList e.pathParams with
  | error failure => rw [Except.map, Except.error.injEq, Except.error.injEq]
  | ok cs => exact iff_of_false (fun h => by cases h) (fun h => by cases h)

/-- As long as no name holds an opening brace, a path is the template with a fitting text of the
arguments in place of every placeholder, all at once, and with its literal text as it is. It comes
out exactly if there is such a text for every name; else the error is about the first name without
one, and tells a value without text from a text that does not fit. -/
theorem renderPath_filled_at_once (hnames : ∀ name ∈ e.pathParams, '\x7b' ∉ name.toList)
    (arguments : Json) :
    ∃ pairs last,
      (∀ pairs' last', Template.IsPartedInto e.path.toList pairs' last' ↔
        pairs' = pairs ∧ last' = last) ∧
      e.pathParams = pairs.map (fun p => String.ofList p.2) ∧
      ((∃ path, e.renderPath arguments = .ok path) ↔
        ∀ name ∈ e.pathParams, ∃ text, Fills arguments name text) ∧
      (∀ path, e.renderPath arguments = .ok path ↔
        ∃ texts : String → String, (∀ name ∈ e.pathParams, Fills arguments name (texts name)) ∧
          path.toList =
            pairs.flatMap (fun p => p.1 ++ (texts (String.ofList p.2)).toList) ++ last) ∧
      ∀ error, e.renderPath arguments = .error error ↔
        ∃ before name after, e.pathParams = before ++ name :: after ∧
          (∀ earlier ∈ before, ∃ text, Fills arguments earlier text) ∧
          (LacksText arguments name ∧ error = .missing name ∧
            error.failure = .of ("missing required argument '" ++ name ++ "'") ∨
          ∃ text, HoldsText arguments name text ∧ ¬ FitsSegment text ∧
            error = .invalid name text ∧
            error.failure = .of ("invalid value for '" ++ name ++ "': " ++ Text.quoted text)) := by
  have hok (path : String) : e.renderPath arguments = .ok path ↔ _ :=
    renderPath_eq_ok (Template.apart_of_not_mem hnames)
  simp only [← Template.expand_eq_filled, ← exists_fills_iff] at hok
  refine ⟨(Template.pieces e.path.toList).1, (Template.pieces e.path.toList).2,
    fun _ _ => Template.isPartedInto_iff, rfl, ?_, fun path => ?_, fun error => ?_⟩
  · constructor
    · rintro ⟨path, hpath⟩
      exact ((hok path).mp hpath).1
    · exact fun h => ⟨_, (hok _).mpr ⟨h, String.toList_ofList⟩⟩
  · rw [hok]
    constructor
    · rintro ⟨hfills, hpath⟩
      exact ⟨filler arguments, fun name hname => fills_filler_iff.mpr
        (exists_fills_iff.mp (hfills name hname)), hpath⟩
    · rintro ⟨texts, hfills, hpath⟩
      refine ⟨fun name hname => ⟨_, hfills name hname⟩, hpath.trans ?_⟩
      exact Template.expand_congr fun name hname =>
        congrArg String.toList (hfills name hname).filler_eq.symm
  · -- the wording of an error goes with its kind
    simp only [renderPath_eq_error, placeholderValue_eq_error, exists_fills_iff]
    refine exists_congr fun before => exists_congr fun name => exists_congr fun after =>
      and_congr_right fun _ => and_congr_right fun _ => or_congr ?_ ?_
    · exact and_congr_right fun _ => (and_iff_left_of_imp fun h => h ▸ rfl).symm
    · exact exists_congr fun text => and_congr_right fun _ => and_congr_right fun _ =>
        (and_iff_left_of_imp fun h => h ▸ rfl).symm

/-- Two names with no text between them, one of them twice, and braces without partner. -/
def strayBraces : Endpoint :=
  { tool := "braces_get", description := "Braces"
    path := "/é\x7d\x7ba\x7d\x7bb\x7d-\x7ba\x7d/\x7bc" }

/-- A value with dots beside another value, and a list where a text belongs. -/
theorem strayBraces_filled :
    let arguments := Json.object [("a", .bool true), ("b", .string "..-")]
    let unfit := Json.object [("a", .bool true), ("b", .array [])]
    (∀ name ∈ strayBraces.pathParams, '\x7b' ∉ name.toList) ∧
    strayBraces.renderPath arguments = .ok "/é\x7dtrue..--true/\x7bc" ∧
    (∃ texts : String → String,
      ∀ name ∈ strayBraces.pathParams, Fills arguments name (texts name)) ∧
    strayBraces.renderPath unfit = .error (.missing "b") := by
  intro arguments unfit
  have hnames : ∀ name ∈ strayBraces.pathParams, '\x7b' ∉ name.toList := by decide +kernel
  have hpath : strayBraces.renderPath arguments = .ok "/é\x7dtrue..--true/\x7bc" := by
    decide +kernel
  obtain ⟨_, _, -, -, -, hfilled, -⟩ := renderPath_filled_at_once hnames arguments
  obtain ⟨texts, htexts, -⟩ := (hfilled _).mp hpath
  obtain ⟨_, _, -, -, -, -, hunfit⟩ := renderPath_filled_at_once hnames unfit
  refine ⟨hnames, hpath, ⟨texts, htexts⟩, (hunfit _).mpr ⟨["a"], "b", ["a"], ?_, ?_, .inl ?_⟩⟩
  · decide +kernel
  · exact List.forall_mem_singleton.mpr
      ⟨"true", fills_iff.mpr ⟨rfl, by decide +kernel⟩⟩
  · exact ⟨.inr (.inr (.inl ⟨[], rfl⟩)), rfl, rfl⟩

end Endpoint

end Switchboard
