/-!
# Blank space

Which characters count as white space (the Unicode property `White_Space`), and what is left of a
text when the white space around it is taken off. Cursors, lists in environment values, request
lines and base addresses are all trimmed by this one rule.
-/

namespace Switchboard.Text

/-- The characters with the Unicode property `White_Space`. -/
def isBlank (c : Char) : Bool :=
  let n := c.toNat
  (9 ≤ n && n ≤ 13) || n == 0x20 || n == 0x85 || n == 0xA0 || n == 0x1680 ||
    (0x2000 ≤ n && n ≤ 0x200A) || n == 0x2028 || n == 0x2029 || n == 0x202F || n == 0x205F ||
    n == 0x3000

/-- Drops white space at the end. -/
def trimEnd (cs : List Char) : List Char :=
  (cs.reverse.dropWhile isBlank).reverse

/-- Drops white space at both ends. -/
def trim (cs : List Char) : List Char :=
  trimEnd (cs.dropWhile isBlank)

theorem dropWhile_isBlank_eq_self {cs : List Char} (h : ∀ c ∈ cs, isBlank c = false) :
    cs.dropWhile isBlank = cs := by
  cases cs with
  | nil => rfl
  | cons c rest => rw [List.dropWhile_cons_of_neg (by simp [h c List.mem_cons_self])]

theorem trim_eq_self {cs : List Char} (h : ∀ c ∈ cs, isBlank c = false) : trim cs = cs := by
  have hreverse : ∀ c ∈ cs.reverse, isBlank c = false := fun c hc => h c (List.mem_reverse.mp hc)
  rw [trim, trimEnd, dropWhile_isBlank_eq_self h, dropWhile_isBlank_eq_self hreverse,
    List.reverse_reverse]

theorem dropWhile_isBlank_append {before : List Char} (h : ∀ c ∈ before, isBlank c = true)
    (cs : List Char) : (before ++ cs).dropWhile isBlank = cs.dropWhile isBlank := by
  induction before with
  | nil => rfl
  | cons c rest ih =>
    rw [List.cons_append, List.dropWhile_cons_of_pos (h c List.mem_cons_self),
      ih fun d hd => h d (List.mem_cons_of_mem _ hd)]

/-- White space around a text is trimmed off. -/
theorem trim_append {before cs after : List Char} (hbefore : ∀ c ∈ before, isBlank c = true)
    (hcs : ∀ c ∈ cs, isBlank c = false) (hafter : ∀ c ∈ after, isBlank c = true) :
    trim (before ++ cs ++ after) = cs := by
  have hreverse : ∀ c ∈ after.reverse, isBlank c = true := fun c hc =>
    hafter c (List.mem_reverse.mp hc)
  rw [trim, List.append_assoc, dropWhile_isBlank_append hbefore]
  cases cs with
  | nil =>
    have hblank := dropWhile_isBlank_append hafter []
    rw [List.append_nil] at hblank
    rw [List.nil_append, hblank]
    rfl
  | cons c rest =>
    rw [List.cons_append, List.dropWhile_cons_of_neg (by simp [hcs c List.mem_cons_self]),
      ← List.cons_append, trimEnd, List.reverse_append, dropWhile_isBlank_append hreverse,
      dropWhile_isBlank_eq_self fun d hd => hcs d (List.mem_reverse.mp hd), List.reverse_reverse]

/-- A text without the white space around it. -/
def trimmed (s : String) : String :=
  String.ofList (trim s.toList)

/-- Holds of a text of white space only, and of the empty text. -/
def blank (s : String) : Bool :=
  s.toList.all isBlank

/-- Cuts at every occurrence of `c`; the pieces joined by `c` are the text again. -/
def splitAt (c : Char) : List Char → List (List Char)
  | [] => [[]]
  | d :: rest =>
    if d = c then [] :: splitAt c rest
    else
      match splitAt c rest with
      | [] => [[d]]
      | piece :: pieces => (d :: piece) :: pieces

/-- Joins pieces with `c` between neighbours. -/
def joinWith (c : Char) : List (List Char) → List Char
  | [] => []
  | [piece] => piece
  | piece :: pieces => piece ++ c :: joinWith c pieces

theorem splitAt_ne_nil (c : Char) (cs : List Char) : splitAt c cs ≠ [] := by
  induction cs with
  | nil => simp [splitAt]
  | cons d rest ih =>
    rw [splitAt]
    split
    · simp
    · split <;> simp

theorem joinWith_splitAt (c : Char) (cs : List Char) : joinWith c (splitAt c cs) = cs := by
  induction cs with
  | nil => rfl
  | cons d rest ih =>
    rw [splitAt]
    split
    · next h =>
      subst h
      cases hp : splitAt d rest with
      | nil => exact absurd hp (splitAt_ne_nil d rest)
      | cons p ps => rw [← ih, hp]; rfl
    · cases hp : splitAt c rest with
      | nil => exact absurd hp (splitAt_ne_nil c rest)
      | cons p ps =>
        rw [hp] at ih
        cases ps with
        | nil => simpa [joinWith] using ih
        | cons q qs => simpa [joinWith] using ih

end Switchboard.Text
