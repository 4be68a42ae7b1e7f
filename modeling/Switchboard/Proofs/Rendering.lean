import Mathlib.Data.List.Basic
import Mathlib.Data.List.Sublists
import Mathlib.Data.List.TakeWhile
import Switchboard.Endpoint.Basic
import Switchboard.Proofs.Lists

/-!
# Rendered paths

The placeholders of a path are filled one after the other, each time in the whole text. As long as
no placeholder is also the end of a later one (`Apart`) and no value holds an opening brace, what is
filled in is a placeholder and nothing else (`fill_expand`), so the result is the template with all
values in place at once (`renderPath_eq_ok`).

A template is a list of symbols then, one for each character and each placeholder, and each segment
of the rendered path comes from one segment of the symbols (`splitOn_filled`).

Arguments that no placeholder and no entry of the query asks for do not matter to the path
(`renderPath_congr`) and the query (`renderQuery_congr`).
-/

namespace Switchboard

namespace Template

/-! ## Taking apart -/

theorem cut?_eq_none {c : Char} {cs : List Char} : cut? c cs = none ↔ c ∉ cs := by
  induction cs with
  | nil => simp [cut?]
  | cons d rest ih =>
    rw [cut?, List.mem_cons, not_or]
    split
    · next hd => simp [hd]
    · next hd => rw [Option.map_eq_none_iff, ih]; exact ⟨fun h => ⟨Ne.symm hd, h⟩, fun h => h.2⟩

theorem cut?_append {c : Char} {before : List Char} (h : c ∉ before) (after : List Char) :
    cut? c (before ++ c :: after) = some (before, after) := by
  induction before with
  | nil => rw [List.nil_append, cut?, if_pos rfl]
  | cons d rest ih =>
    obtain ⟨hd, hrest⟩ := List.ne_and_not_mem_of_not_mem_cons h
    rw [List.cons_append, cut?, if_neg (Ne.symm hd), ih hrest, Option.map_some]

/-- What is read first where literal text, a name and the rest are put together. -/
theorem next?_append {literal name : List Char} (hliteral : '\x7b' ∉ literal)
    (hname : '\x7d' ∉ name) (after : List Char) :
    next? (literal ++ '\x7b' :: (name ++ '\x7d' :: after)) = some (literal, name, after) := by
  rw [next?, cut?_append hliteral]
  simp only [Option.bind_eq_bind, Option.bind_some, cut?_append hname]

/-- A text without placeholder has no closing brace after its first opening brace. -/
theorem next?_eq_none {cs : List Char} (h : next? cs = none) :
    ∃ before after, cs = before ++ after ∧ '\x7b' ∉ before ∧ '\x7d' ∉ after := by
  cases hopen : cut? '\x7b' cs with
  | none => exact ⟨cs, [], (List.append_nil cs).symm, cut?_eq_none.mp hopen, List.not_mem_nil⟩
  | some halves =>
    obtain ⟨before, rest⟩ := halves
    obtain ⟨hcs, hbefore⟩ := cut?_eq_some hopen
    cases hclose : cut? '\x7d' rest with
    | none =>
      refine ⟨before, '\x7b' :: rest, hcs, hbefore, fun hmem => ?_⟩
      rcases List.mem_cons.mp hmem with hbrace | hmem
      · exact absurd hbrace (by decide)
      · exact cut?_eq_none.mp hclose hmem
    | some halves' =>
      rw [next?, hopen] at h
      simp [hclose] at h

theorem pieces_of_next?_eq_none {cs : List Char} (h : next? cs = none) : pieces cs = ([], cs) := by
  rw [pieces]
  split
  · rfl
  · next hsome => cases h.symm.trans hsome

theorem pieces_of_next?_eq_some {cs literal name after : List Char}
    (h : next? cs = some (literal, name, after)) :
    pieces cs = ((literal, name) :: (pieces after).1, (pieces after).2) := by
  rw [pieces]
  split
  · next hnone => cases h.symm.trans hnone
  · next hsome =>
    cases h.symm.trans hsome
    rfl

/-- The literal text before a placeholder has no opening brace, a name no closing brace, and there
is no placeholder in the text at the end. -/
theorem pieces_spec (cs : List Char) :
    (∀ p ∈ (pieces cs).1, '\x7b' ∉ p.1 ∧ '\x7d' ∉ p.2) ∧ next? (pieces cs).2 = none := by
  fun_induction pieces cs with
  | case1 cs h => exact ⟨fun p hp => absurd hp List.not_mem_nil, h⟩
  | case2 cs literal name after h _ pairs last hp ih =>
    rw [hp] at ih
    refine ⟨fun p hmem => ?_, ih.2⟩
    rcases List.mem_cons.mp hmem with rfl | hmem
    · exact (next?_eq_some h).2
    · exact ih.1 p hmem

/-- A template with a text for every name. -/
def expand (text : String → List Char) (cs : List Char) : List Char :=
  (pieces cs).1.flatMap (fun p => p.1 ++ text (String.ofList p.2)) ++ (pieces cs).2

theorem expand_placeholder (cs : List Char) : expand placeholder cs = cs := by
  rw [expand]
  simp only [placeholder, String.toList_ofList]
  exact (by simp [rejoin] : _ = rejoin (pieces cs).1 (pieces cs).2).trans (rejoin_pieces cs)

theorem expand_congr {template : String} {text text' : String → List Char}
    (h : ∀ name ∈ names template, text name = text' name) :
    expand text template.toList = expand text' template.toList := by
  rw [expand, expand]
  congr 1
  refine List.flatMap_congr fun p hp => ?_
  rw [h _ (List.mem_map_of_mem hp)]

/-! ## Filling -/

section replaceFrom

variable {pattern : List Char} (value : List Char)

theorem replaceFrom_skip (skip : Nat) (cs : List Char) :
    replaceFrom pattern value skip cs = replaceFrom pattern value 0 (cs.drop skip) := by
  induction cs generalizing skip with
  | nil => rw [List.drop_nil]; rfl
  | cons c rest ih =>
    cases skip with
    | zero => rfl
    | succ n => exact ih n

theorem replaceFrom_pattern (h : pattern ≠ []) (cs : List Char) :
    replaceFrom pattern value 0 (pattern ++ cs) = value ++ replaceFrom pattern value 0 cs := by
  cases pattern with
  | nil => exact absurd rfl h
  | cons c rest =>
    have hfits : (c :: rest).isPrefixOf (c :: (rest ++ cs)) = true :=
      List.isPrefixOf_iff_prefix.mpr (List.prefix_append (c :: rest) cs)
    rw [List.cons_append, replaceFrom, if_pos hfits, replaceFrom_skip]
    simp

theorem replaceFrom_cons_of_not_found {c : Char} {cs : List Char} (h : ¬ pattern <+: c :: cs) :
    replaceFrom pattern value 0 (c :: cs) = c :: replaceFrom pattern value 0 cs := by
  rw [replaceFrom, if_neg fun hfits => h (List.isPrefixOf_iff_prefix.mp hfits)]

/-- Nothing is replaced in a stretch without the first character of the pattern. -/
theorem replaceFrom_append {c : Char} (hhead : pattern.head? = some c) {before : List Char}
    (h : c ∉ before) (cs : List Char) :
    replaceFrom pattern value 0 (before ++ cs) = before ++ replaceFrom pattern value 0 cs := by
  induction before with
  | nil => rfl
  | cons d rest ih =>
    obtain ⟨hd, hrest⟩ := List.ne_and_not_mem_of_not_mem_cons h
    have hfits : ¬ pattern <+: d :: (rest ++ cs) := fun hfound => by
      obtain ⟨more, rfl⟩ := List.head?_eq_some_iff.mp hhead
      exact hd (List.cons_prefix_cons.mp hfound).1
    rw [List.cons_append, replaceFrom_cons_of_not_found value hfits, ih hrest, List.cons_append]

/-- Nothing is replaced in a text that lacks a character of the pattern. -/
theorem replaceFrom_eq_self {c : Char} (hpattern : c ∈ pattern) {cs : List Char} (h : c ∉ cs) :
    replaceFrom pattern value 0 cs = cs := by
  induction cs with
  | nil => rfl
  | cons d rest ih =>
    have hfits : ¬ pattern <+: d :: rest := fun hfound => h (hfound.subset hpattern)
    rw [replaceFrom_cons_of_not_found value hfits, ih fun hc => h (List.mem_cons_of_mem _ hc)]

end replaceFrom

/-- Where two names are closed, one of them is found in front of the other only if they are the
same. -/
theorem eq_of_closed {name other : List Char} (hname : '\x7d' ∉ name) (hother : '\x7d' ∉ other)
    {cs : List Char} (h : name ++ ['\x7d'] <+: other ++ '\x7d' :: cs) : name = other := by
  have hstops : ∀ ds rest : List Char, '\x7d' ∉ ds →
      (ds ++ '\x7d' :: rest).takeWhile (· != '\x7d') = ds := fun ds rest hds => by
    have hgoes : ∀ c ∈ ds, (c != '\x7d') = true := fun c hc =>
      bne_iff_ne.mpr fun heq => hds (heq ▸ hc)
    rw [List.takeWhile_append_of_pos hgoes, List.takeWhile_cons_of_neg (by decide), List.append_nil]
  obtain ⟨more, hmore⟩ := h
  rw [List.append_assoc, List.singleton_append] at hmore
  have hsame := congrArg (List.takeWhile (· != '\x7d')) hmore
  rwa [hstops name more hname, hstops other cs hother] at hsame

/-- A placeholder is found in front of a text only if the text starts with its name. -/
theorem name_eq_of_found {name other : String} (hname : '\x7d' ∉ name.toList)
    (hother : '\x7d' ∉ other.toList) {cs : List Char}
    (h : placeholder name <+: placeholder other ++ cs) : name = other := by
  have hclosed : placeholder other ++ cs = '\x7b' :: (other.toList ++ '\x7d' :: cs) := by
    simp [placeholder]
  rw [hclosed] at h
  exact String.toList_inj.mp (eq_of_closed hname hother (List.cons_prefix_cons.mp h).2)

/-- A placeholder is not found inside a name that does not end with it. -/
theorem replaceFrom_inside {name : String} (hname : '\x7d' ∉ name.toList) (value : List Char)
    {inside : List Char} (hinside : '\x7d' ∉ inside) (hends : ¬ '\x7b' :: name.toList <:+ inside)
    (cs : List Char) :
    replaceFrom (placeholder name) value 0 (inside ++ '\x7d' :: cs) =
      inside ++ '\x7d' :: replaceFrom (placeholder name) value 0 cs := by
  induction inside with
  | nil =>
    have hfits : ¬ placeholder name <+: '\x7d' :: cs := fun hfound =>
      absurd (List.cons_prefix_cons.mp hfound).1 (by decide)
    exact replaceFrom_cons_of_not_found value hfits
  | cons d rest ih =>
    obtain ⟨-, hrest⟩ := List.ne_and_not_mem_of_not_mem_cons hinside
    have hfits : ¬ placeholder name <+: d :: (rest ++ '\x7d' :: cs) := fun hfound => by
      obtain ⟨hd, hfound⟩ := List.cons_prefix_cons.mp hfound
      exact hends (hd ▸ eq_of_closed hname hrest hfound ▸ List.suffix_refl _)
    rw [List.cons_append, replaceFrom_cons_of_not_found value hfits,
      ih hrest fun hsuffix => hends (hsuffix.trans (List.suffix_cons d rest)), List.cons_append]

/-- No placeholder is also the end of one that is filled after it. A name goes up to the first
closing brace, so a placeholder inside another one can only be its end. -/
def Apart (names : List String) : Prop :=
  names.eraseDups.Pairwise fun earlier later => ¬ '\x7b' :: earlier.toList <:+ later.toList

instance (names : List String) : Decidable (Apart names) :=
  inferInstanceAs (Decidable (List.Pairwise _ _))

theorem apart_of_not_mem {names : List String} (h : ∀ name ∈ names, '\x7b' ∉ name.toList) :
    Apart names :=
  List.pairwise_of_forall_mem_list fun _ _ later hlater hsuffix =>
    h later (List.mem_eraseDups.mp hlater) (hsuffix.subset List.mem_cons_self)

/-- What is still to be filled does not end with the placeholder whose turn it is. -/
theorem Apart.not_suffix {done rest : List String} {name other : String}
    (h : Apart (done ++ name :: rest)) (hother : other ∈ done ++ name :: rest)
    (hnew : other ∉ done) : ¬ '\x7b' :: name.toList <:+ other.toList := by
  by_cases hsame : other = name
  · subst hsame
    exact fun hsuffix => Nat.not_succ_le_self _ hsuffix.length_le
  · rw [Apart, ← List.singleton_append, ← List.append_assoc, List.eraseDups_append,
      List.pairwise_append] at h
    refine h.2.2 name (List.mem_eraseDups.mpr (by simp)) other (List.mem_eraseDups.mpr ?_)
    simp_all [List.removeAll]

/-- The texts of names in the course of filling: the values of those that are done, and still the
placeholders of the others. -/
def partly (value : String → String) (done : List String) (name : String) : List Char :=
  if name ∈ done then (value name).toList else placeholder name

section partly

variable {value : String → String} {done : List String} {name : String}

theorem fill_partly (hname : '\x7d' ∉ name.toList) {other : String}
    (hother : '\x7d' ∉ other.toList)
    (hapart : other ∉ done → ¬ '\x7b' :: name.toList <:+ other.toList)
    (hvalue : '\x7b' ∉ (value other).toList) (cs : List Char) :
    fill name (value name) (partly value done other ++ cs) =
      partly value (done ++ [name]) other ++ fill name (value name) cs := by
  have hhead : (placeholder name).head? = some '\x7b' := rfl
  unfold partly fill
  by_cases hdone : other ∈ done
  · rw [if_pos hdone, if_pos (List.mem_append_left _ hdone), replaceFrom_append _ hhead hvalue]
  · rw [if_neg hdone]
    by_cases hsame : other = name
    · subst hsame
      have hne : placeholder other ≠ [] := List.cons_ne_nil _ _
      rw [if_pos (by simp), replaceFrom_pattern _ hne]
    · -- another placeholder stays: it is not the pattern, and the pattern is not found inside it
      have hfits : ¬ placeholder name <+: placeholder other ++ cs := fun hfound =>
        hsame (name_eq_of_found hname hother hfound).symm
      have hnew : other ∉ done ++ [name] := by simp [hdone, hsame]
      rw [if_neg hnew]
      calc replaceFrom (placeholder name) (value name).toList 0 (placeholder other ++ cs)
          = '\x7b' :: replaceFrom (placeholder name) (value name).toList 0
              ((other.toList ++ ['\x7d']) ++ cs) := replaceFrom_cons_of_not_found _ hfits
        _ = placeholder other ++ replaceFrom (placeholder name) (value name).toList 0 cs := by
          rw [List.append_assoc, List.singleton_append,
            replaceFrom_inside hname _ hother (hapart hdone)]
          simp [placeholder]

/-- Filling one placeholder does to a template that is filled in part what it would do to the
template itself. -/
theorem fill_expand {template : String} {rest : List String} (hapart : Apart (names template))
    (hsplit : names template = done ++ name :: rest)
    (hvalues : ∀ other ∈ names template, '\x7b' ∉ (value other).toList) :
    fill name (value name) (expand (partly value done) template.toList) =
      expand (partly value (done ++ [name])) template.toList := by
  obtain ⟨hpieces, hlast⟩ := pieces_spec template.toList
  have hclosing : ∀ other ∈ names template, '\x7d' ∉ other.toList := fun other hother => by
    obtain ⟨p, hp, rfl⟩ := List.mem_map.mp hother
    rw [String.toList_ofList]
    exact (hpieces p hp).2
  have hname : name ∈ names template := hsplit ▸ by simp
  have hends : ∀ other ∈ names template, other ∉ done → ¬ '\x7b' :: name.toList <:+ other.toList :=
    fun other hother => (hsplit ▸ hapart).not_suffix (hsplit ▸ hother)
  have hhead : (placeholder name).head? = some '\x7b' := rfl
  -- the text at the end may hold an opening brace, but then no closing one after it
  have hend : fill name (value name) (pieces template.toList).2 = (pieces template.toList).2 := by
    obtain ⟨before, after, hsplit, hbefore, hafter⟩ := next?_eq_none hlast
    have hbrace : '\x7d' ∈ placeholder name := by simp [placeholder]
    rw [hsplit, fill, replaceFrom_append _ hhead hbefore, replaceFrom_eq_self _ hbrace hafter]
  have hmem : ∀ p ∈ (pieces template.toList).1, String.ofList p.2 ∈ names template :=
    fun p hp => List.mem_map_of_mem hp
  unfold expand
  generalize (pieces template.toList).1 = pairs at hpieces hmem
  induction pairs with
  | nil => exact hend
  | cons p rest ih =>
    have hp := hmem p List.mem_cons_self
    have hrest := ih (fun q hq => hpieces q (List.mem_cons_of_mem _ hq))
      fun q hq => hmem q (List.mem_cons_of_mem _ hq)
    simp only [List.flatMap_cons, List.append_assoc]
    rw [← hrest, ← fill_partly (hclosing name hname) (hclosing _ hp) (hends _ hp) (hvalues _ hp)]
    exact replaceFrom_append _ hhead (hpieces p List.mem_cons_self).1 _

theorem foldl_fill_expand {template : String} (hapart : Apart (names template))
    (hvalues : ∀ name ∈ names template, '\x7b' ∉ (value name).toList) {todo : List String}
    (hsplit : names template = done ++ todo) :
    todo.foldl (fun cs name => fill name (value name) cs)
        (expand (partly value done) template.toList) =
      expand (partly value (done ++ todo)) template.toList := by
  induction todo generalizing done with
  | nil => rw [List.append_nil]; rfl
  | cons name rest ih =>
    have hstep : names template = (done ++ [name]) ++ rest := by rw [hsplit]; simp
    rw [List.foldl_cons, fill_expand hapart hsplit hvalues, ih hstep, List.append_assoc]
    rfl

/-- Filling all placeholders in turn fills them at once. -/
theorem foldl_fill {template : String} (hapart : Apart (names template))
    (hvalues : ∀ name ∈ names template, '\x7b' ∉ (value name).toList) :
    (names template).foldl (fun cs name => fill name (value name) cs) template.toList =
      expand (fun name => (value name).toList) template.toList := by
  have hstart : expand (partly value []) template.toList = template.toList := by
    have hnone : partly value [] = placeholder := funext fun _ => if_neg List.not_mem_nil
    rw [hnone, expand_placeholder]
  have hall : _ = expand (partly value ([] ++ names template)) template.toList :=
    foldl_fill_expand hapart hvalues rfl
  rw [hstart, List.nil_append] at hall
  rw [hall]
  exact expand_congr fun name hname => if_pos hname

end partly

/-! ## Segments -/

/-- What a template consists of. -/
inductive Symbol where
  | char (c : Char)
  | hole (name : String)
  deriving Repr, DecidableEq

/-- A character stands for itself, a placeholder for its value. -/
def Symbol.written (values : String → String) : Symbol → List Char
  | .char c => [c]
  | .hole name => (values name).toList

/-- Symbols with values for the placeholders. -/
def filled (values : String → String) (symbols : List Symbol) : List Char :=
  symbols.flatMap (·.written values)

/-- A template as a list of symbols. -/
def symbols (cs : List Char) : List Symbol :=
  (pieces cs).1.flatMap (fun p => p.1.map .char ++ [.hole (String.ofList p.2)]) ++
    (pieces cs).2.map .char

theorem hole_mem_symbols {template name : String} :
    .hole name ∈ symbols template.toList ↔ name ∈ names template := by
  simp [symbols, names, eq_comm]

section filled

variable (values : String → String)

theorem expand_eq_filled (cs : List Char) :
    expand (fun name => (values name).toList) cs = filled values (symbols cs) := by
  have hchars : ∀ ds : List Char, (ds.map Symbol.char).flatMap (·.written values) = ds :=
    fun ds => by
      rw [List.flatMap_map]
      exact List.flatMap_singleton' ds
  simp only [expand, filled, symbols, List.flatMap_append, List.flatMap_assoc, hchars,
    List.flatMap_singleton]
  rfl

/-- A value is found where its placeholder was. -/
theorem infix_filled {name : String} {syms : List Symbol} (h : .hole name ∈ syms) :
    (values name).toList <:+: filled values syms :=
  List.infix_of_mem_flatten (List.mem_map_of_mem h)

/-- The segments of a template with values are the segments of the template, each with its values. -/
theorem splitOn_filled {syms : List Symbol}
    (h : ∀ name, .hole name ∈ syms → '/' ∉ (values name).toList) :
    (filled values syms).splitOn '/' = (syms.splitOn (.char '/')).map (filled values) := by
  have hsep : (Symbol.char '/').written values = ['/'] := rfl
  refine splitOn_flatMap hsep fun symbol hmem hne => ?_
  cases symbol with
  | char c =>
    have hc : '/' ≠ c := fun heq => hne (congrArg Symbol.char heq.symm)
    exact fun hslash => hc (List.mem_singleton.mp hslash)
  | hole name => exact h name hmem

end filled

end Template

/-! ## Values -/

theorem toNat_of_isSegmentChar {c : Char} (h : isSegmentChar c = true) : c.toNat < 0x80 := by
  simp only [isSegmentChar, Bool.or_eq_true, decide_eq_true_eq] at h
  rcases h with (((((((halnum | rfl) | rfl) | rfl) | rfl) | rfl) | rfl) | rfl) | rfl
  · exact Nat.lt_of_le_of_lt (range_of_isAlphanum halnum).2 (by decide)
  all_goals decide

/-- What holds of the characters of a value is decided on ASCII. -/
theorem of_isSegmentChar {p : Char → Prop}
    (hascii : ∀ n < 0x80, isSegmentChar (Char.ofNat n) = true → p (Char.ofNat n)) {c : Char}
    (h : isSegmentChar c = true) : p c := by
  have hc := hascii c.toNat (toNat_of_isSegmentChar h)
  rw [Char.ofNat_toNat] at hc
  exact hc h

theorem isSegmentChar_of_mem {value : String} (h : isSegment value = true) {c : Char}
    (hc : c ∈ value.toList) : isSegmentChar c = true := by
  simp only [isSegment, Bool.and_eq_true, List.all_eq_true] at h
  exact h.2 c hc

/-- A segment that holds a value is neither empty nor a dot segment, whatever stands around the
value. -/
theorem dots_ne_of_value {value : String} (h : isSegment value = true) {cs : List Char}
    (hcs : value.toList <:+: cs) : cs ≠ [] ∧ cs ≠ ['.'] ∧ cs ≠ ['.', '.'] := by
  have hnot : value.toList ≠ [] ∧ value.toList ≠ ['.'] ∧ value.toList ≠ ['.', '.'] := by
    simp only [isSegment, Bool.and_eq_true, decide_eq_true_eq, ne_eq, ← String.toList_inj] at h
    exact ⟨h.1.1.1, h.1.1.2, h.1.2⟩
  refine ⟨?_, ?_, ?_⟩ <;> rintro rfl
  · exact hnot.1 (List.infix_nil.mp hcs)
  · have hsub : value.toList ∈ [[], ['.']] := List.mem_sublists.mpr hcs.sublist
    simp [hnot] at hsub
  · have hsub : value.toList ∈ [[], ['.'], ['.'], ['.', '.']] := List.mem_sublists.mpr hcs.sublist
    simp [hnot] at hsub

/-! ## The rendered path -/

/-- What is put in for a placeholder. -/
def filler (arguments : Json) (name : String) : String := (argumentText? arguments name).getD ""

namespace Endpoint

variable {e : Endpoint} {arguments : Json}

theorem placeholderValue_eq_ok {name value : String} :
    placeholderValue arguments name = .ok value ↔
      isSegment (filler arguments name) = true ∧ value = filler arguments name := by
  unfold placeholderValue filler
  cases argumentText? arguments name with
  | none => simp [isSegment]
  | some text => by_cases h : isSegment text = true <;> simp [h, eq_comm]

theorem fillAll_eq_ok {names : List String} {path path' : List Char} :
    fillAll arguments path names = .ok path' ↔
      (∀ name ∈ names, isSegment (filler arguments name) = true) ∧
        path' = names.foldl (fun cs name => Template.fill name (filler arguments name) cs) path := by
  induction names generalizing path with
  | nil =>
    exact ⟨fun h => ⟨fun _ h => absurd h List.not_mem_nil, (Except.ok.inj h).symm⟩,
      fun h => congrArg Except.ok h.2.symm⟩
  | cons name rest ih =>
    rw [fillAll]
    cases hvalue : placeholderValue arguments name with
    | error failure =>
      refine ⟨nofun, fun h => ?_⟩
      have hok := placeholderValue_eq_ok.mpr ⟨h.1 name List.mem_cons_self, rfl⟩
      cases hvalue.symm.trans hok
    | ok value =>
      obtain ⟨hsegment, rfl⟩ := placeholderValue_eq_ok.mp hvalue
      rw [List.forall_mem_cons, List.foldl_cons, and_assoc, and_iff_right hsegment]
      exact ih

/-- A path comes out if and only if there is a segment for every placeholder, and it is the template
with all of them in place at once. -/
theorem renderPath_eq_ok {path : String} (hapart : Template.Apart e.pathParams) :
    e.renderPath arguments = .ok path ↔
      (∀ name ∈ e.pathParams, isSegment (filler arguments name) = true) ∧
        path.toList = Template.filled (filler arguments) (Template.symbols e.path.toList) := by
  have hfilled (h : ∀ name ∈ e.pathParams, isSegment (filler arguments name) = true) :=
    Template.foldl_fill hapart fun name hname hbrace =>
      absurd (isSegmentChar_of_mem (h name hname) hbrace) (by decide)
  have hrender : e.renderPath arguments = .ok path ↔
      fillAll arguments e.path.toList e.pathParams = .ok path.toList := by
    rw [renderPath]
    cases fillAll arguments e.path.toList e.pathParams with
    | error failure => exact ⟨nofun, nofun⟩
    | ok cs =>
      rw [Except.map, Except.ok.injEq, Except.ok.injEq, ← String.toList_inj, String.toList_ofList]
  rw [hrender, fillAll_eq_ok, ← Template.expand_eq_filled]
  exact and_congr_right fun h => by rw [← hfilled h]; rfl

end Endpoint

/-! ## The arguments that count -/

theorem argumentText?_congr {arguments arguments' : Json} {name : String}
    (h : arguments.get? name = arguments'.get? name) :
    argumentText? arguments name = argumentText? arguments' name := by
  rw [argumentText?, argumentText?, h]

namespace Endpoint

theorem fillAll_congr {arguments arguments' : Json} {names : List String}
    (h : ∀ name ∈ names, arguments.get? name = arguments'.get? name) (path : List Char) :
    fillAll arguments path names = fillAll arguments' path names := by
  induction names generalizing path with
  | nil => rfl
  | cons name rest ih =>
    have hvalue : placeholderValue arguments name = placeholderValue arguments' name := by
      rw [placeholderValue, placeholderValue, argumentText?_congr (h name List.mem_cons_self)]
    simp only [fillAll, hvalue, ih fun name hname => h name (List.mem_cons_of_mem _ hname)]

/-- A path depends on the arguments for its placeholders. -/
theorem renderPath_congr {e : Endpoint} {arguments arguments' : Json}
    (h : ∀ name ∈ e.pathParams, arguments.get? name = arguments'.get? name) :
    e.renderPath arguments = e.renderPath arguments' := by
  rw [renderPath, renderPath, fillAll_congr h]

/-- A query depends on the declared arguments. -/
theorem renderQuery_congr {e : Endpoint} {arguments arguments' : Json}
    (h : ∀ name ∈ e.query, arguments.get? name = arguments'.get? name) :
    e.renderQuery arguments = e.renderQuery arguments' := by
  rw [renderQuery, renderQuery]
  refine congrArg (e.fixed ++ ·) (List.filterMap_congr fun name hname => ?_)
  rw [argumentText?_congr (h name hname)]

end Endpoint

end Switchboard
