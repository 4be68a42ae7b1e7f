import Mathlib.Data.List.Nodup

/-!
# Facts about lists and characters

Members that are found or turned into others, lists that are split, and lists that go together one by
one, as slots do with the entries of a catalog and tasks with slots (`List.Forall₂`). Letters and
digits are ASCII.
-/

namespace Switchboard

variable {α β : Type}

/-- The first member of some kind, with what comes before and after it. -/
theorem exists_first {p : α → Bool} {xs : List α} (h : ∃ x ∈ xs, p x = true) :
    ∃ before x after, xs = before ++ x :: after ∧ p x = true ∧ ∀ y ∈ before, p y = false := by
  obtain ⟨x, hfind⟩ := Option.isSome_iff_exists.mp (List.find?_isSome.mpr h)
  obtain ⟨hx, before, after, hsplit, hbefore⟩ := List.find?_eq_some_iff_append.mp hfind
  exact ⟨before, x, after, hsplit, hx, fun y hy => by simpa using hbefore y hy⟩

/-- What some of the members of a list are turned into keeps the names of these members. -/
theorem nodup_map_filterMap {f : α → Option β} {nameOf : α → String} {nameOf' : β → String}
    (hname : ∀ a b, f a = some b → nameOf' b = nameOf a) {xs : List α}
    (hnodup : (xs.map nameOf).Nodup) : ((xs.filterMap f).map nameOf').Nodup := by
  refine List.Nodup.sublist ?_ hnodup
  induction xs with
  | nil => exact .refl _
  | cons x rest ih =>
    have hrest := ih (List.nodup_cons.mp hnodup).2
    cases hx : f x with
    | none =>
      rw [List.filterMap_cons_none hx]
      exact hrest.cons _
    | some y =>
      rw [List.filterMap_cons_some hx, List.map_cons, List.map_cons, hname x y hx]
      exact hrest.cons_cons _

/-- Where names differ, a search by name finds the member of that name. -/
theorem find?_of_nodup_map {nameOf : α → String} {xs : List α} (hnodup : (xs.map nameOf).Nodup)
    {x : α} (hx : x ∈ xs) : xs.find? (nameOf · == nameOf x) = some x := by
  cases hfind : xs.find? (nameOf · == nameOf x) with
  | none => exact absurd (beq_self_eq_true _) (List.find?_eq_none.mp hfind x hx)
  | some y =>
    have hname : nameOf y = nameOf x := by simpa using List.find?_some hfind
    rw [List.inj_on_of_nodup_map hnodup (List.mem_of_find?_eq_some hfind) hx hname]

theorem count_toList [DecidableEq α] (x? : Option α) (x : α) :
    x?.toList.count x = if x? = some x then 1 else 0 := by
  cases x? with
  | none => rfl
  | some y => by_cases h : y = x <;> simp [h]

/-! ## Splitting -/

theorem splitOnP_congr {p q : α → Bool} {xs : List α} (h : ∀ x ∈ xs, p x = q x) :
    xs.splitOnP p = xs.splitOnP q := by
  induction xs with
  | nil => rfl
  | cons x rest ih =>
    rw [List.splitOnP_cons_eq_if_modifyHead, List.splitOnP_cons_eq_if_modifyHead,
      h x List.mem_cons_self, ih fun y hy => h y (List.mem_cons_of_mem _ hy)]

/-- A stretch without a separator goes to the first part. -/
theorem splitOn_append_of_not_mem [BEq α] [LawfulBEq α] {x : α} {before : List α}
    (h : x ∉ before) (rest : List α) :
    (before ++ rest).splitOn x = (rest.splitOn x).modifyHead (before ++ ·) := by
  induction before with
  | nil => rw [List.nil_append]; cases rest.splitOn x <;> rfl
  | cons y before ih =>
    have hy : (y == x) = false := beq_eq_false_iff_ne.mpr fun heq => h (heq ▸ List.mem_cons_self)
    rw [List.cons_append, List.splitOn_cons_eq_if_modifyHead, hy,
      ih fun hx => h (List.mem_cons_of_mem _ hx)]
    cases rest.splitOn x <;> rfl

/-- Stretches without a separator and a separator in front of each but the first are the parts. -/
theorem splitOn_append_flatMap [BEq β] [LawfulBEq β] {f : α → List β} {b : β} {first : List β}
    (hfirst : b ∉ first) {xs : List α} (h : ∀ x ∈ xs, b ∉ f x) :
    (first ++ xs.flatMap fun x => b :: f x).splitOn b = first :: xs.map f := by
  induction xs generalizing first with
  | nil =>
    have hsplit := splitOn_append_of_not_mem hfirst []
    rw [List.splitOn_nil, List.modifyHead_cons, List.append_nil] at hsplit
    rw [List.flatMap_nil, List.append_nil, hsplit, List.map_nil]
  | cons x rest ih =>
    obtain ⟨hx, hrest⟩ := List.forall_mem_cons.mp h
    rw [splitOn_append_of_not_mem hfirst, List.flatMap_cons, List.cons_append,
      List.splitOn_cons_eq_if_modifyHead, if_pos (beq_self_eq_true b), ih hx hrest,
      List.modifyHead_cons, List.append_nil, List.map_cons]

/-- The parts of a list hold its members without the separator. -/
theorem mem_of_mem_splitOn [BEq α] [LawfulBEq α] {a x : α} {xs part : List α}
    (hpart : part ∈ xs.splitOn a) (hx : x ∈ part) : x ∈ xs ∧ x ≠ a := by
  induction xs generalizing part with
  | nil =>
    obtain rfl := List.mem_singleton.mp hpart
    cases hx
  | cons y rest ih =>
    have hlater : ∀ part ∈ rest.splitOn a, x ∈ part → x ∈ y :: rest ∧ x ≠ a := fun part hpart hx =>
      ⟨List.mem_cons_of_mem _ (ih hpart hx).1, (ih hpart hx).2⟩
    rw [List.splitOn_cons_eq_if_modifyHead] at hpart
    split at hpart
    · rcases List.mem_cons.mp hpart with rfl | hpart
      · cases hx
      · exact hlater part hpart hx
    · next hy =>
      cases hsplit : rest.splitOn a with
      | nil => rw [hsplit] at hpart; cases hpart
      | cons first more =>
        rw [hsplit] at hpart hlater
        rcases List.mem_cons.mp hpart with rfl | hpart
        · rcases List.mem_cons.mp hx with rfl | hx
          · exact ⟨List.mem_cons_self, fun heq => hy (beq_iff_eq.mpr heq)⟩
          · exact hlater first List.mem_cons_self hx
        · exact hlater part (List.mem_cons_of_mem _ hpart) hx

/-- A list may be split before its members are written out or afterwards, if the separator of the
one is written as the separator of the other, and no other member has that in it. -/
theorem splitOn_flatMap [BEq α] [LawfulBEq α] [BEq β] [LawfulBEq β] {f : α → List β} {a : α} {b : β}
    (hsep : f a = [b]) {xs : List α} (hkeep : ∀ x ∈ xs, x ≠ a → b ∉ f x) :
    (xs.flatMap f).splitOn b = (xs.splitOn a).map (·.flatMap f) := by
  induction xs with
  | nil => rfl
  | cons x rest ih =>
    have hrest := ih fun y hy => hkeep y (List.mem_cons_of_mem _ hy)
    rw [List.flatMap_cons, List.splitOn_cons_eq_if_modifyHead]
    by_cases hx : x = a
    · subst hx
      rw [hsep, List.singleton_append, List.splitOn_cons_eq_if_modifyHead, hrest,
        if_pos (beq_self_eq_true b), if_pos (beq_self_eq_true x)]
      rfl
    · rw [splitOn_append_of_not_mem (hkeep x List.mem_cons_self hx), hrest,
        if_neg fun heq => hx (eq_of_beq heq)]
      cases rest.splitOn a <;> rfl

/-! ## One by one -/

variable {R : α → β → Prop}

theorem forall₂_map_of_forall {f : α → β} {xs : List α} (h : ∀ x ∈ xs, R x (f x)) :
    List.Forall₂ R xs (xs.map f) :=
  List.forall₂_map_right_iff.mpr (List.forall₂_same.mpr h)

/-- The members of lists that go together one by one have partners. -/
theorem exists_mem_of_forall₂ {xs : List α} {ys : List β} (h : List.Forall₂ R xs ys) {x : α}
    (hx : x ∈ xs) : ∃ y ∈ ys, R x y := by
  induction h with
  | nil => cases hx
  | cons hfirst _ ih =>
    rcases List.mem_cons.mp hx with rfl | hx
    · exact ⟨_, List.mem_cons_self, hfirst⟩
    · obtain ⟨y, hy, hR⟩ := ih hx
      exact ⟨y, List.mem_cons_of_mem _ hy, hR⟩

/-- In place of a member of the second list there may be another one with the same partners. -/
theorem forall₂_replace {y y' : β} (hR : ∀ x, R x y → R x y') {xs : List α}
    {before after : List β} (h : List.Forall₂ R xs (before ++ y :: after)) :
    List.Forall₂ R xs (before ++ y' :: after) := by
  induction before generalizing xs with
  | nil =>
    cases h with
    | cons hfirst hrest => exact .cons (hR _ hfirst) hrest
  | cons _ _ ih =>
    cases h with
    | cons hfirst hrest => exact .cons hfirst (ih hrest)

theorem range_of_isAlphanum {c : Char} (h : c.isAlphanum = true) :
    0x30 ≤ c.toNat ∧ c.toNat ≤ 0x7A := by
  have hupper (h : c.isUpper = true) : 0x41 ≤ c.toNat ∧ c.toNat ≤ 0x5A :=
    (of_decide_eq_true h).imp UInt32.le_iff_toNat_le.mp UInt32.le_iff_toNat_le.mp
  have hlower (h : c.isLower = true) : 0x61 ≤ c.toNat ∧ c.toNat ≤ 0x7A :=
    (Bool.and_eq_true_iff.mp h).imp (UInt32.le_iff_toNat_le.mp ∘ of_decide_eq_true)
      (UInt32.le_iff_toNat_le.mp ∘ of_decide_eq_true)
  have hdigit (h : c.isDigit = true) : 0x30 ≤ c.toNat ∧ c.toNat ≤ 0x39 :=
    (Bool.and_eq_true_iff.mp h).imp (UInt32.le_iff_toNat_le.mp ∘ of_decide_eq_true)
      (UInt32.le_iff_toNat_le.mp ∘ of_decide_eq_true)
  rcases Bool.or_eq_true_iff.mp h with halpha | hd
  · rcases Bool.or_eq_true_iff.mp halpha with hu | hl
    · have := hupper hu
      omega
    · have := hlower hl
      omega
  · have := hdigit hd
    omega

end Switchboard
