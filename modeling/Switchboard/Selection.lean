import Switchboard.NameMap

/-!
# Selection of services

Which of the known services to leave out. A service is left out if it is disabled, and, where any
service is enabled by name, also if it is not among those. Names of no known service do nothing,
except that they make the list of enabled services non-empty.
-/

namespace Switchboard

/-- Adds those names of a list that meet a condition. -/
def NameSet.addWhere (p : String → Bool) (s : NameSet) (names : List String) : NameSet :=
  names.foldl (fun s name => if p name then s.insert name () else s) s

/-- The known services that are left out. The first pass takes the disabled names that are known;
where any name is enabled, the second one adds the known names that are not. -/
def excludedServices (known disabled enabled : List String) : NameSet :=
  let excluded := NameSet.addWhere known.contains NameMap.empty disabled
  if enabled.isEmpty then excluded
  else NameSet.addWhere (!enabled.contains ·) excluded known

/-- Whether a known service is left out. -/
def isExcluded (disabled enabled : List String) (name : String) : Bool :=
  disabled.contains name || (!enabled.isEmpty && !enabled.contains name)

theorem NameSet.contains_addWhere (p : String → Bool) (s : NameSet) (names : List String)
    (name : String) :
    (addWhere p s names).contains name = (s.contains name || (names.contains name && p name)) := by
  induction names generalizing s with
  | nil => simp [addWhere]
  | cons first rest ih =>
    have hfirst : (if p first then s.insert first () else s).contains name =
        (s.contains name || (name == first && p name)) := by
      by_cases heq : name = first
      · subst heq
        cases p name <;> simp [NameMap.contains]
      · cases p first <;> simp [NameMap.contains, heq, Ne.symm heq]
    rw [addWhere, List.foldl_cons, ← addWhere, ih, hfirst, List.contains_cons, Bool.or_assoc,
      ← Bool.and_or_distrib_right]

/-- Two passes come to one condition. -/
theorem contains_excludedServices (known disabled enabled : List String) (name : String) :
    (excludedServices known disabled enabled).contains name =
      (known.contains name && isExcluded disabled enabled name) := by
  have hempty : (NameMap.empty : NameSet).contains name = false := rfl
  unfold excludedServices isExcluded
  cases enabled.isEmpty with
  | true =>
    simp only [if_true, NameSet.contains_addWhere, hempty, Bool.false_or, Bool.not_true,
      Bool.false_and, Bool.or_false, Bool.and_comm]
  | false =>
    simp only [Bool.false_eq_true, if_false, NameSet.contains_addWhere, hempty, Bool.false_or,
      Bool.not_false, Bool.true_and, Bool.and_or_distrib_left, Bool.and_comm (disabled.contains _)]

end Switchboard
