/-!
# Path templates

A path template is a text with placeholders: names between braces. A name starts after an opening
brace and ends at the first closing brace, so it may hold opening braces. A brace without partner
is literal text.

`pieces` takes a template apart; `rejoin` puts it together again, and `rejoin_pieces` says that
nothing is lost.
-/

namespace Switchboard.Template

/-- What stands before the first `c` and what stands after it. -/
def cut? (c : Char) : List Char → Option (List Char × List Char)
  | [] => none
  | d :: rest =>
    if d = c then some ([], rest) else (cut? c rest).map fun p => (d :: p.1, p.2)

theorem cut?_eq_some {c : Char} {cs before after : List Char}
    (h : cut? c cs = some (before, after)) : cs = before ++ c :: after ∧ c ∉ before := by
  induction cs generalizing before with
  | nil => simp [cut?] at h
  | cons d rest ih =>
    rw [cut?] at h
    split at h
    · next hd =>
      simp only [Option.some.injEq, Prod.mk.injEq] at h
      obtain ⟨rfl, rfl⟩ := h
      simp [hd]
    · next hd =>
      obtain ⟨⟨b, a⟩, hp, he⟩ := Option.map_eq_some_iff.1 h
      simp only [Prod.mk.injEq] at he
      obtain ⟨rfl, rfl⟩ := he
      obtain ⟨h1, h2⟩ := ih hp
      exact ⟨by rw [h1]; rfl, by simp [h2, Ne.symm hd]⟩

/-- Literal text, the name after it, and what is left, up to the first placeholder. -/
def next? (cs : List Char) : Option (List Char × List Char × List Char) := do
  let (literal, rest) ← cut? '\x7b' cs
  let (name, after) ← cut? '\x7d' rest
  some (literal, name, after)

/-- The first placeholder of a template, in its place. -/
theorem next?_eq_some {cs literal name after : List Char}
    (h : next? cs = some (literal, name, after)) :
    cs = literal ++ '\x7b' :: name ++ '\x7d' :: after ∧ '\x7b' ∉ literal ∧ '\x7d' ∉ name := by
  simp only [next?, Option.bind_eq_bind, Option.bind_eq_some_iff] at h
  obtain ⟨⟨l, r⟩, hl, ⟨n, a⟩, hn, he⟩ := h
  simp only [Option.some.injEq, Prod.mk.injEq] at he
  obtain ⟨rfl, rfl, rfl⟩ := he
  obtain ⟨h1, h2⟩ := cut?_eq_some hl
  obtain ⟨h3, h4⟩ := cut?_eq_some hn
  exact ⟨by rw [h1, show r = _ from h3]; simp, h2, h4⟩

/-- A template as pairs of literal text and name, and the literal text at the end. -/
def pieces (cs : List Char) : List (List Char × List Char) × List Char :=
  match h : next? cs with
  | none => ([], cs)
  | some (literal, name, after) =>
    have : after.length < cs.length := by
      rw [(next?_eq_some h).1]; simp; omega
    let (pairs, last) := pieces after
    ((literal, name) :: pairs, last)
termination_by cs.length

/-- Pieces with the braces put back. -/
def rejoin (pairs : List (List Char × List Char)) (last : List Char) : List Char :=
  pairs.flatMap (fun p => p.1 ++ '\x7b' :: p.2 ++ ['\x7d']) ++ last

theorem rejoin_pieces (cs : List Char) : rejoin (pieces cs).1 (pieces cs).2 = cs := by
  fun_induction pieces cs with
  | case1 cs h => simp [rejoin]
  | case2 cs literal name after h _ pairs last hp ih =>
    rw [hp] at ih
    rw [(next?_eq_some h).1]
    simp only [rejoin, List.flatMap_cons, List.append_assoc, List.cons_append,
      List.nil_append] at ih ⊢
    simp [ih]

/-- The names of the placeholders, in order. -/
def names (template : String) : List String :=
  (pieces template.toList).1.map fun p => String.ofList p.2

/-- A placeholder. -/
def placeholder (name : String) : List Char :=
  '\x7b' :: name.toList ++ ['\x7d']

/-- Passes over `skip` characters, then puts a value for every occurrence of a pattern, from the
left and without overlap. -/
def replaceFrom (pattern value : List Char) (skip : Nat) : List Char → List Char
  | [] => []
  | c :: rest =>
    match skip with
    | n + 1 => replaceFrom pattern value n rest
    | 0 =>
      if pattern.isPrefixOf (c :: rest) then
        value ++ replaceFrom pattern value (pattern.length - 1) rest
      else c :: replaceFrom pattern value 0 rest

/-- A text with a value for every occurrence of a placeholder. -/
def fill (name : String) (value : String) (cs : List Char) : List Char :=
  replaceFrom (placeholder name) value.toList 0 cs

end Switchboard.Template
