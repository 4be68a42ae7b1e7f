import Mathlib.Data.List.Flatten
import Switchboard.Proofs.Rendering

/-!
# Segments of a rendered path

A template whose names hold no slash may be cut at its slashes before it is read or afterwards
(`splitOn_symbols`). So each segment of a rendered path comes from one segment of the template: a
segment without placeholder is kept, and one with a placeholder is still a segment
(`renderPath_keeps_segments`).

`reading_induction` is the shape of the first part: a text is read from the left, a character or a
placeholder at a time, up to where no brace is closed any more.
-/

namespace Switchboard

namespace Template

/-! ## Reading from the left -/

theorem next?_cons {c : Char} (hc : c ≠ '\x7b') (cs : List Char) :
    next? (c :: cs) = (next? cs).map fun p => (c :: p.1, p.2) := by
  rw [next?, next?, cut?, if_neg hc]
  cases cut? '\x7b' cs with
  | none => rfl
  | some halves =>
    simp only [Option.map_some, Option.bind_eq_bind, Option.bind_some]
    cases cut? '\x7d' halves.2 <;> rfl

theorem next?_of_not_mem {cs : List Char} (h : '\x7d' ∉ cs) : next? cs = none := by
  cases hnext : next? cs with
  | none => rfl
  | some parts => exact absurd ((next?_eq_some hnext).1 ▸ by simp) h

theorem symbols_of_next?_eq_none {cs : List Char} (h : next? cs = none) :
    symbols cs = cs.map .char := by
  rw [symbols, pieces_of_next?_eq_none h]
  rfl

theorem symbols_of_next?_eq_some {cs literal name after : List Char}
    (h : next? cs = some (literal, name, after)) :
    symbols cs = literal.map .char ++ .hole (String.ofList name) :: symbols after := by
  rw [symbols, pieces_of_next?_eq_some h]
  simp [symbols]

/-- Without a closing brace there is no placeholder. -/
theorem symbols_of_not_mem {cs : List Char} (h : '\x7d' ∉ cs) : symbols cs = cs.map .char :=
  symbols_of_next?_eq_none (next?_of_not_mem h)

theorem symbols_cons {c : Char} (hc : c ≠ '\x7b') (cs : List Char) :
    symbols (c :: cs) = .char c :: symbols cs := by
  cases hnext : next? cs with
  | none =>
    have hnone : next? (c :: cs) = none := by rw [next?_cons hc, hnext, Option.map_none]
    rw [symbols_of_next?_eq_none hnone, symbols_of_next?_eq_none hnext, List.map_cons]
  | some parts =>
    obtain ⟨literal, name, after⟩ := parts
    have hsome : next? (c :: cs) = some (c :: literal, name, after) := by
      rw [next?_cons hc, hnext, Option.map_some]
    rw [symbols_of_next?_eq_some hsome, symbols_of_next?_eq_some hnext, List.map_cons,
      List.cons_append]

theorem symbols_placeholder {name : List Char} (hname : '\x7d' ∉ name) (cs : List Char) :
    symbols ('\x7b' :: (name ++ '\x7d' :: cs)) = .hole (String.ofList name) :: symbols cs := by
  have hnext := next?_append List.not_mem_nil hname cs
  rw [List.nil_append] at hnext
  rw [symbols_of_next?_eq_some hnext, List.map_nil, List.nil_append]

/-- Reading a text from the left: characters and placeholders in turn, until there is no closing
brace any more. -/
theorem reading_induction {motive : List Char → Prop}
    (plain : ∀ cs, '\x7d' ∉ cs → motive cs)
    (char : ∀ c cs, c ≠ '\x7b' → motive cs → motive (c :: cs))
    (hole : ∀ name cs, '\x7d' ∉ name → motive cs → motive ('\x7b' :: (name ++ '\x7d' :: cs)))
    (cs : List Char) : motive cs := by
  induction hlength : cs.length using Nat.strong_induction_on generalizing cs with
  | _ n ih =>
    subst hlength
    by_cases hclosing : '\x7d' ∈ cs
    · cases cs with
      | nil => cases hclosing
      | cons c rest =>
        by_cases hc : c = '\x7b'
        · subst hc
          have hrest : '\x7d' ∈ rest := (List.mem_cons.mp hclosing).resolve_left (by decide)
          obtain ⟨name, after, rfl, hname⟩ := List.eq_append_cons_of_mem hrest
          refine hole name after hname (ih after.length ?_ after rfl)
          simp only [List.length_cons, List.length_append]
          omega
        · exact char c rest hc (ih rest.length (Nat.lt_succ_self _) rest rfl)
    · exact plain cs hclosing

/-- A text is cut at its slashes before it is read or afterwards. -/
theorem splitOn_symbols {cs : List Char}
    (h : ∀ name, .hole name ∈ symbols cs → '/' ∉ name.toList) :
    (symbols cs).splitOn (.char '/') = (cs.splitOn '/').map symbols := by
  induction cs using reading_induction with
  | plain cs hclosing =>
    have hsplit : (cs.map Symbol.char).splitOn (.char '/') =
        (cs.splitOn '/').map (·.map Symbol.char) := by
      have hsingle : ∀ ds : List Char, ds.map Symbol.char = ds.flatMap fun c => [.char c] :=
        fun ds => List.map_eq_flatMap
      simp only [hsingle]
      refine splitOn_flatMap (f := fun c => [Symbol.char c]) (a := '/') rfl fun c _ hc hmem => hc ?_
      exact (Symbol.char.inj (List.mem_singleton.mp hmem)).symm
    rw [symbols_of_not_mem hclosing, hsplit]
    exact List.map_congr_left fun part hpart =>
      (symbols_of_not_mem fun hmem => hclosing (mem_of_mem_splitOn hpart hmem).1).symm
  | char c cs hc ih =>
    rw [symbols_cons hc] at h ⊢
    have hrest := ih fun name hname => h name (List.mem_cons_of_mem _ hname)
    rw [List.splitOn_cons_eq_if_modifyHead, List.splitOn_cons_eq_if_modifyHead, hrest]
    by_cases hslash : c = '/'
    · subst hslash
      rw [if_pos (beq_self_eq_true _), if_pos (beq_self_eq_true _), List.map_cons,
        symbols_of_not_mem List.not_mem_nil]
      rfl
    · rw [if_neg fun heq => hslash (Symbol.char.inj (eq_of_beq heq)),
        if_neg fun heq => hslash (eq_of_beq heq)]
      cases cs.splitOn '/' with
      | nil => rfl
      | cons first more =>
        rw [List.map_cons, List.modifyHead_cons, List.modifyHead_cons, List.map_cons,
          symbols_cons hc]
  | hole name cs hname ih =>
    rw [symbols_placeholder hname] at h ⊢
    have hrest := ih fun other hother => h other (List.mem_cons_of_mem _ hother)
    have hslash : '/' ∉ '\x7b' :: (name ++ ['\x7d']) := fun hmem => by
      have hfree := h _ List.mem_cons_self
      rw [String.toList_ofList] at hfree
      simp [hfree] at hmem
    have hsame : ∀ ds : List Char,
        '\x7b' :: (name ++ '\x7d' :: ds) = ('\x7b' :: (name ++ ['\x7d'])) ++ ds := fun ds => by simp
    rw [List.splitOn_cons_eq_if_modifyHead, hrest, if_neg (by simp), hsame,
      splitOn_append_of_not_mem hslash]
    cases cs.splitOn '/' with
    | nil => rfl
    | cons first more =>
      rw [List.map_cons, List.modifyHead_cons, List.modifyHead_cons, List.map_cons, ← hsame,
        symbols_placeholder hname]

/-- A text with its placeholders for values is the text. -/
theorem filled_placeholder (cs : List Char) :
    filled (fun name => String.ofList (placeholder name)) (symbols cs) = cs := by
  rw [← expand_eq_filled]
  simp only [String.toList_ofList]
  exact expand_placeholder cs

theorem filled_of_names_eq_nil {cs : List Char} (h : names (String.ofList cs) = [])
    (values : String → String) : filled values (symbols cs) = cs := by
  have hcs : (String.ofList cs).toList = cs := String.toList_ofList
  rw [← expand_eq_filled, ← hcs]
  refine (expand_congr fun name hname => ?_).trans (expand_placeholder _)
  rw [h] at hname
  cases hname

/-- Values without characters of some kind leave those of the text around them, and no others. -/
theorem filter_filled_sublist {values : String → String} {p : Char → Bool} {cs : List Char}
    (h : ∀ name, .hole name ∈ symbols cs → ∀ c ∈ (values name).toList, p c = false) :
    ((filled values (symbols cs)).filter p).Sublist (cs.filter p) := by
  have hwritten : ∀ symbol ∈ symbols cs, ((symbol.written values).filter p).Sublist
      ((symbol.written fun name => String.ofList (placeholder name)).filter p) :=
    fun symbol hsymbol => by
      cases symbol with
      | char c => exact .refl _
      | hole name =>
        have hnone : (values name).toList.filter p = [] :=
          List.filter_eq_nil_iff.mpr fun c hc => Bool.eq_false_iff.mp (h name hsymbol c hc)
        rw [Symbol.written, hnone]
        exact List.nil_sublist _
  have hfilter (values : String → String) : (filled values (symbols cs)).filter p =
      (symbols cs).flatMap fun symbol => (symbol.written values).filter p :=
    List.filter_flatMap
  have hsublist := List.Sublist.flatMap_right (symbols cs) hwritten
  rwa [← hfilter, ← hfilter, filled_placeholder] at hsublist

end Template

/-! ## Rendered segments -/

/-- Control characters, as Unicode has them. -/
def isControl (c : Char) : Bool := c.toNat < 0x20 || 0x7F ≤ c.toNat && c.toNat ≤ 0x9F

/-- Characters by which a segment would end, or stand for something else. -/
def isBreaking (c : Char) : Bool :=
  ['/', '\\', '?', '#', '%', ':', '@'].contains c || Text.isBlank c || isControl c

theorem isBreaking_of_isSegmentChar {c : Char} (h : isSegmentChar c = true) :
    isBreaking c = false :=
  of_isSegmentChar (p := fun c => isBreaking c = false) (by decide +kernel) h

/-- What may become of a segment of a template. Without placeholder it stays the same. With one, it
is no empty segment and no dot segment in the end, and no character by which a segment ends or
stands for something else has come in. -/
inductive SegmentKept : List Char → List Char → Prop
  | literal {cs : List Char} (hnames : Template.names (String.ofList cs) = []) : SegmentKept cs cs
  | filled {before after : List Char} (hnames : Template.names (String.ofList before) ≠ [])
      (hempty : after ≠ []) (hdot : after ≠ ['.']) (hdots : after ≠ ['.', '.'])
      (hbreaking : (after.filter isBreaking).Sublist (before.filter isBreaking)) :
    SegmentKept before after

namespace Endpoint

variable {e : Endpoint} {arguments : Json}

/-- The segments of a path are those of its template, one by one, whether a placeholder is all of a
segment, a part of it, or beside others. -/
theorem renderPath_keeps_segments {path : String}
    (hnames : ∀ name ∈ e.pathParams, '\x7b' ∉ name.toList ∧ '/' ∉ name.toList)
    (hpath : e.renderPath arguments = .ok path) :
    List.Forall₂ SegmentKept (e.path.toList.splitOn '/') (path.toList.splitOn '/') := by
  obtain ⟨hvalues, htext⟩ :=
    (renderPath_eq_ok (Template.apart_of_not_mem fun name hname => (hnames name hname).1)).mp hpath
  have hholes : ∀ name, .hole name ∈ Template.symbols e.path.toList →
      isSegment (filler arguments name) = true ∧ '/' ∉ name.toList := fun name hname =>
    have hmem := Template.hole_mem_symbols.mp hname
    ⟨hvalues name hmem, (hnames name hmem).2⟩
  have hunbroken : ∀ name, .hole name ∈ Template.symbols e.path.toList →
      ∀ c ∈ (filler arguments name).toList, isBreaking c = false := fun name hname c hc =>
    isBreaking_of_isSegmentChar (isSegmentChar_of_mem (hholes name hname).1 hc)
  have hsplit := Template.splitOn_symbols fun name hname => (hholes name hname).2
  have hslash : ∀ name, .hole name ∈ Template.symbols e.path.toList →
      '/' ∉ (filler arguments name).toList := fun name hname hmem =>
    absurd (hunbroken name hname '/' hmem) (by decide)
  rw [htext, Template.splitOn_filled _ hslash, hsplit, List.map_map]
  refine forall₂_map_of_forall fun before hbefore => ?_
  -- a placeholder of a segment is a placeholder of the whole path
  have hwhole : ∀ name, .hole name ∈ Template.symbols before →
      .hole name ∈ Template.symbols e.path.toList := fun name hname =>
    (mem_of_mem_splitOn (hsplit ▸ List.mem_map_of_mem hbefore) hname).1
  rw [Function.comp_apply]
  by_cases hnone : Template.names (String.ofList before) = []
  · rw [Template.filled_of_names_eq_nil hnone]
    exact .literal hnone
  · obtain ⟨name, hname⟩ := List.exists_mem_of_ne_nil _ hnone
    have hhole : .hole name ∈ Template.symbols before := by
      have hmem := Template.hole_mem_symbols.mpr hname
      rwa [String.toList_ofList] at hmem
    obtain ⟨hempty, hdot, hdots⟩ := dots_ne_of_value (hholes name (hwhole name hhole)).1
      (Template.infix_filled (filler arguments) hhole)
    exact .filled hnone hempty hdot hdots <| Template.filter_filled_sublist fun other hother =>
      hunbroken other (hwhole other hother)

/-- Two names around a dot, a name between characters that a value may not hold, and a dot segment
of the template. -/
def dottedPath : Endpoint :=
  { tool := "dots_get", description := "Dots", path := "/\x7ba\x7d.\x7bb\x7d/./a:\x7bb\x7d?" }

/-- Dots beside a dot do not come to a dot segment, and the dot segment of the template stays. -/
theorem dottedPath_keeps_segments :
    let arguments := Json.object [("a", .string "..."), ("b", .string ".-")]
    (∀ name ∈ dottedPath.pathParams, '\x7b' ∉ name.toList ∧ '/' ∉ name.toList) ∧
    dottedPath.renderPath arguments = .ok "/.....-/./a:.-?" ∧
    List.Forall₂ SegmentKept ["".toList, "\x7ba\x7d.\x7bb\x7d".toList, ".".toList,
      "a:\x7bb\x7d?".toList] ["".toList, ".....-".toList, ".".toList, "a:.-?".toList] := by
  intro arguments
  have hnames : ∀ name ∈ dottedPath.pathParams, '\x7b' ∉ name.toList ∧ '/' ∉ name.toList := by
    decide +kernel
  have hpath : dottedPath.renderPath arguments = .ok "/.....-/./a:.-?" := by decide +kernel
  exact ⟨hnames, hpath, renderPath_keeps_segments hnames hpath⟩

end Endpoint

end Switchboard
