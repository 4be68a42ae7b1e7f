import Mathlib.Data.List.Induction
import Mathlib.Data.List.Perm.Basic
import Switchboard.NameMap

/-!
# Look-ups in maps keyed by name

A map is known by its look-ups: `mem_entries` turns a look-up into membership of the listing and
back, and `ext_find?` makes two maps with the same look-ups equal. Both rest on the strict order of
the listing, which leaves room for one binding of a name.

Since a listing ascends, the first hit of a search through it is the hit of the least name
(`findSome?_entries`).
-/

namespace Switchboard

namespace Assoc

variable {α : Type}

theorem mem_of_find? {name : String} {value : α} {entries : List (String × α)}
    (h : find? name entries = some value) : (name, value) ∈ entries := by
  induction entries with
  | nil => cases h
  | cons e rest ih =>
    obtain ⟨key, old⟩ := e
    rw [find?] at h
    split at h
    · next heq =>
      obtain rfl := Option.some.inj h
      rw [heq]
      exact List.mem_cons_self
    · exact List.mem_cons_of_mem _ (ih h)

theorem find?_of_mem {name : String} {value : α} {entries : List (String × α)}
    (hasc : Ascending entries) (h : (name, value) ∈ entries) : find? name entries = some value := by
  induction entries with
  | nil => cases h
  | cons e rest ih =>
    rcases List.mem_cons.mp h with rfl | hrest
    · simp [find?]
    · have hlt : e.1 < name := List.rel_of_pairwise_cons hasc hrest
      rw [find?, if_neg (String.ne_of_lt hlt)]
      exact ih hasc.of_cons hrest

theorem put_perm {name : String} {entries : List (String × α)}
    (h : find? name entries = none) (value : α) :
    (put name value entries).Perm ((name, value) :: entries) := by
  induction entries with
  | nil => exact .refl _
  | cons e rest ih =>
    obtain ⟨key, old⟩ := e
    rw [find?] at h
    split at h
    · cases h
    · next hne =>
      rw [put, if_neg hne]
      split
      · exact .refl _
      · exact ((ih h).cons _).trans (.swap ..)

end Assoc

namespace NameMap

variable {α β : Type}

theorem mem_entries {m : NameMap α} {name : String} {value : α} :
    (name, value) ∈ m.entries ↔ m.find? name = some value :=
  ⟨Assoc.find?_of_mem m.ascending, Assoc.mem_of_find?⟩

theorem nodup_entries (m : NameMap α) : m.entries.Nodup :=
  List.Pairwise.imp (fun hlt heq => String.ne_of_lt hlt (congrArg Prod.fst heq)) m.ascending

theorem pairwise_keys (m : NameMap α) : m.keys.Pairwise (· < ·) := List.pairwise_map.mpr m.ascending

theorem mem_keys {m : NameMap α} {name : String} : name ∈ m.keys ↔ (m.find? name).isSome := by
  simp [keys, mem_entries, Option.isSome_iff_exists]

theorem contains_iff_mem_entries {m : NameMap α} {name : String} :
    m.contains name = true ↔ ∃ value, (name, value) ∈ m.entries := by
  simp only [contains, mem_entries, Option.isSome_iff_exists]

theorem ext_find? {m m' : NameMap α} (h : ∀ name, m.find? name = m'.find? name) : m = m' := by
  have hperm : m.entries.Perm m'.entries :=
    (List.perm_ext_iff_of_nodup m.nodup_entries m'.nodup_entries).mpr fun e => by
      rw [mem_entries, mem_entries, h]
  have heq : m.entries = m'.entries :=
    hperm.eq_of_pairwise (fun _ _ _ _ hab hba => absurd (String.lt_trans hab hba) (String.lt_irrefl _))
      m.ascending m'.ascending
  cases m
  cases m'
  cases heq
  rfl

theorem find?_map (f : α → β) (m : NameMap α) (name : String) :
    (m.map f).find? name = (m.find? name).map f := by
  have hlist : ∀ entries : List (String × α),
      Assoc.find? name (entries.map fun e => (e.1, f e.2)) = (Assoc.find? name entries).map f := by
    intro entries
    induction entries with
    | nil => rfl
    | cons e rest ih =>
      simp only [List.map_cons, Assoc.find?, ih]
      split <;> rfl
  exact hlist m.entries

theorem contains_erase (m : NameMap α) (name key : String) :
    (m.erase name).contains key = (decide (name ≠ key) && m.contains key) := by
  by_cases h : name = key <;> simp [contains, h]

/-- What only the binding of one name gives occurs as often as that gives it. -/
theorem count_flatMap [BEq β] [LawfulBEq β] {m : NameMap α} {f : String × α → List β} {x : β}
    {name : String} (h : ∀ e ∈ m.entries, x ∈ f e → e.1 = name) :
    (m.entries.flatMap f).count x =
      (m.find? name).elim 0 fun value => (f (name, value)).count x := by
  cases hfind : m.find? name with
  | none =>
    refine List.count_eq_zero.mpr fun hmem => ?_
    obtain ⟨e, he, hx⟩ := List.mem_flatMap.mp hmem
    have hbound : m.find? name = some e.2 := mem_entries.mp (h e he hx ▸ he)
    rw [hfind] at hbound
    cases hbound
  | some value =>
    obtain ⟨before, after, hsplit⟩ := List.append_of_mem (mem_entries.mpr hfind)
    have hasc : Assoc.Ascending (before ++ (name, value) :: after) := hsplit ▸ m.ascending
    obtain ⟨-, hafter, hbefore⟩ := List.pairwise_append.mp hasc
    have hzero : ∀ e ∈ m.entries, e.1 ≠ name → x ∉ f e := fun e he hne hx => hne (h e he hx)
    rw [hsplit] at hzero
    have hfirst : (before.flatMap f).count x = 0 := List.count_eq_zero.mpr fun hmem => by
      obtain ⟨e, he, hx⟩ := List.mem_flatMap.mp hmem
      exact hzero e (List.mem_append_left _ he)
        (String.ne_of_lt (hbefore e he _ List.mem_cons_self)) hx
    have hlast : (after.flatMap f).count x = 0 := List.count_eq_zero.mpr fun hmem => by
      obtain ⟨e, he, hx⟩ := List.mem_flatMap.mp hmem
      exact hzero e (List.mem_append_right _ (List.mem_cons_of_mem _ he))
        (String.ne_of_lt (List.rel_of_pairwise_cons hafter he)).symm hx
    rw [hsplit, List.flatMap_append, List.flatMap_cons, List.count_append, List.count_append,
      hfirst, hlast]
    exact Nat.zero_add _

/-! ## Listings as maps -/

theorem find?_insertNew (m : NameMap α) (name key : String) (value : α) :
    (m.insertNew name value).find? key =
      (m.find? key).or (if name = key then some value else none) := by
  unfold insertNew contains
  split
  · next hbound =>
    by_cases hkey : name = key
    · subst hkey
      obtain ⟨old, hold⟩ := Option.isSome_iff_exists.mp hbound
      simp [hold]
    · simp [hkey]
  · next hfree =>
    rw [find?_insert]
    by_cases hkey : name = key
    · subst hkey
      simp [Option.not_isSome_iff_eq_none.mp hfree]
    · simp [hkey]

/-- The last pair of a name counts. -/
theorem find?_ofList (pairs : List (String × α)) (name : String) :
    (ofList pairs).find? name = (pairs.filter (·.1 = name)).getLast?.map (·.2) := by
  induction pairs using List.reverseRec with
  | nil => rfl
  | append_singleton pairs e ih =>
    rw [ofList, List.foldl_append, List.filter_append]
    simp only [List.foldl_cons, List.foldl_nil, find?_insert]
    rw [show pairs.foldl (fun m e => m.insert e.1 e.2) empty = ofList pairs from rfl, ih]
    by_cases he : e.1 = name <;> simp [he]

theorem ofList_entries (m : NameMap α) : ofList m.entries = m := by
  refine ext_find? fun name => ?_
  rw [find?_ofList]
  cases hlast : (m.entries.filter (·.1 = name)).getLast? with
  | none =>
    have hfree : ∀ e ∈ m.entries, e.1 ≠ name := by
      simpa [List.filter_eq_nil_iff] using List.getLast?_eq_none_iff.mp hlast
    cases hfind : m.find? name with
    | none => rfl
    | some value => exact absurd rfl (hfree _ (mem_entries.mpr hfind))
  | some e =>
    obtain ⟨hmem, hname⟩ := List.mem_filter.mp (List.mem_of_getLast? hlast)
    obtain rfl : e.1 = name := of_decide_eq_true hname
    exact (mem_entries.mp hmem).symm

theorem contains_ofList {pairs : List (String × α)} {name : String} :
    (ofList pairs).contains name = true ↔ name ∈ pairs.map (·.1) := by
  rw [contains, find?_ofList, Option.isSome_map, List.getLast?_isSome, Ne, List.filter_eq_nil_iff]
  simp

/-- The first pair of a name counts. -/
theorem find?_ofListFirst (pairs : List (String × α)) (name : String) :
    (ofListFirst pairs).find? name = (pairs.find? (·.1 == name)).map (·.2) := by
  induction pairs using List.reverseRec with
  | nil => rfl
  | append_singleton pairs e ih =>
    rw [ofListFirst, List.foldl_append, List.foldl_cons, List.foldl_nil, find?_insertNew,
      List.find?_append, show pairs.foldl _ empty = ofListFirst pairs from rfl, ih]
    cases hfound : pairs.find? (·.1 == name) with
    | some _ => rfl
    | none => by_cases he : e.1 = name <;> simp [he]

/-- A listing of different names is bound as it is. -/
theorem perm_ofListFirst {pairs : List (String × α)}
    (h : (pairs.map (·.1)).Nodup) : (ofListFirst pairs).entries.Perm pairs := by
  induction pairs using List.reverseRec with
  | nil => exact .refl _
  | append_singleton pairs e ih =>
    rw [List.map_append, List.nodup_append] at h
    obtain ⟨hpairs, -, hdisjoint⟩ := h
    have hperm := ih hpairs
    have hfree : (ofListFirst pairs).find? e.1 = none := by
      rw [Option.eq_none_iff_forall_not_mem]
      intro value hvalue
      have hmem : (e.1, value) ∈ pairs := hperm.mem_iff.mp (mem_entries.mpr hvalue)
      exact hdisjoint e.1 (List.mem_map.mpr ⟨_, hmem, rfl⟩) e.1 (by simp) rfl
    have hlast : ofListFirst (pairs ++ [e]) = (ofListFirst pairs).insert e.1 e.2 := by
      rw [ofListFirst, List.foldl_append]
      exact if_neg (by rw [contains, show pairs.foldl _ empty = ofListFirst pairs from rfl, hfree]
                       simp)
    rw [hlast]
    exact (Assoc.put_perm hfree e.2).trans
      ((hperm.cons _).trans (List.perm_append_singleton e pairs).symm)

theorem contains_ofNames (names : List String) (name : String) :
    (NameSet.ofNames names).contains name = names.contains name := by
  have hfold : ∀ (names : List String) (s : NameSet),
      (names.foldl (fun s name => s.insert name ()) s).contains name =
        (s.contains name || names.contains name) := by
    intro names
    induction names with
    | nil => intro s; simp
    | cons other rest ih =>
      intro s
      rw [List.foldl_cons, ih, List.contains_cons]
      by_cases h : other = name
      · simp [contains, h]
      · have hne : (name == other) = false := beq_eq_false_iff_ne.mpr (Ne.symm h)
        simp [contains, h, hne]
  simpa [NameSet.ofNames, contains] using hfold names empty

/-! ## The least name with a property -/

/-- What a search by name hits, no name before it would have hit. -/
theorem le_of_findSome? {m : NameMap α} {f : α → Option β} {name : String} {hit : β}
    (h : m.entries.findSome? (fun e => (f e.2).map (e.1, ·)) = some (name, hit)) :
    (∃ value, m.find? name = some value ∧ f value = some hit) ∧
      ∀ other value, m.find? other = some value → (f value).isSome → name ≤ other := by
  obtain ⟨before, e, after, hlist, hhit, hmiss⟩ := List.findSome?_eq_some_iff.mp h
  obtain ⟨b, hb, hpair⟩ := Option.map_eq_some_iff.mp hhit
  obtain ⟨rfl, rfl⟩ := Prod.mk.inj hpair
  have hmem : e ∈ m.entries := by rw [hlist]; simp
  refine ⟨⟨e.2, mem_entries.mp hmem, hb⟩, ?_⟩
  intro other value hother hsome
  have hasc : Assoc.Ascending (before ++ e :: after) := hlist ▸ m.ascending
  have hin : (other, value) ∈ before ++ e :: after := hlist ▸ mem_entries.mpr hother
  rcases List.mem_append.mp hin with hbefore | hafter
  · have := Option.map_eq_none_iff.mp (hmiss _ hbefore)
    rw [this] at hsome
    cases hsome
  · rcases List.mem_cons.mp hafter with rfl | hlater
    · exact String.le_refl _
    · exact Std.le_of_lt (List.rel_of_pairwise_cons (List.pairwise_append.mp hasc).2.1 hlater)

/-- The first hit of a search by name is the hit of the least name. -/
theorem findSome?_entries {m : NameMap α} {f : α → Option β} {name : String} {hit : β} :
    m.entries.findSome? (fun e => (f e.2).map (e.1, ·)) = some (name, hit) ↔
      (∃ value, m.find? name = some value ∧ f value = some hit) ∧
        ∀ other value, m.find? other = some value → (f value).isSome → name ≤ other := by
  refine ⟨le_of_findSome?, ?_⟩
  rintro ⟨⟨value, hfind, hf⟩, hleast⟩
  cases hsearch : m.entries.findSome? (fun e => (f e.2).map (e.1, ·)) with
  | none =>
    have hmiss := List.findSome?_eq_none_iff.mp hsearch _ (mem_entries.mpr hfind)
    simp [hf] at hmiss
  | some found =>
    obtain ⟨name', hit'⟩ := found
    obtain ⟨⟨value', hfind', hf'⟩, hleast'⟩ := le_of_findSome? hsearch
    obtain rfl : name' = name :=
      String.le_antisymm (hleast' name value hfind (by rw [hf]; rfl))
        (hleast name' value' hfind' (by rw [hf']; rfl))
    rw [hfind] at hfind'
    obtain rfl := Option.some.inj hfind'
    rw [hf] at hf'
    obtain rfl := Option.some.inj hf'
    rfl

/-! ## The greatest name with a property -/

/-- Of some names in a listing, the last is the greatest. -/
theorem getLast?_filter_entries {m : NameMap α} {p : String → Bool}
    {name : String} {value : α} :
    (m.entries.filter fun e => p e.1).getLast? = some (name, value) ↔
      m.find? name = some value ∧ p name = true ∧
        ∀ other, m.contains other = true → p other = true → other ≤ name := by
  constructor
  · intro h
    obtain ⟨before, hsplit⟩ := List.getLast?_eq_some_iff.mp h
    obtain ⟨hmem, hp⟩ := List.mem_filter.mp (List.mem_of_getLast? h)
    refine ⟨mem_entries.mp hmem, hp, fun other hother hpother => ?_⟩
    obtain ⟨old, hold⟩ := contains_iff_mem_entries.mp hother
    have hfound : (other, old) ∈ m.entries.filter fun e => p e.1 :=
      List.mem_filter.mpr ⟨hold, hpother⟩
    have hasc : Assoc.Ascending (before ++ [(name, value)]) :=
      hsplit ▸ List.Pairwise.filter _ m.ascending
    rw [hsplit] at hfound
    rcases List.mem_append.mp hfound with hbefore | hlast
    · exact Std.le_of_lt ((List.pairwise_append.mp hasc).2.2 _ hbefore _ List.mem_cons_self)
    · exact (Prod.mk.inj (List.mem_singleton.mp hlast)).1 ▸ String.le_refl name
  · rintro ⟨hfind, hp, hgreatest⟩
    obtain ⟨before, after, hsplit⟩ := List.append_of_mem (mem_entries.mpr hfind)
    have hasc : Assoc.Ascending (before ++ (name, value) :: after) := hsplit ▸ m.ascending
    have hafter : ∀ e ∈ after, ¬ p e.1 = true := by
      intro e he hpe
      have hlt : name < e.1 :=
        List.rel_of_pairwise_cons (List.pairwise_append.mp hasc).2.1 he
      have hmem : e ∈ m.entries := by
        rw [hsplit]
        exact List.mem_append_right _ (List.mem_cons_of_mem _ he)
      have hcontains : m.contains e.1 = true := contains_iff_mem_entries.mpr ⟨e.2, hmem⟩
      exact String.not_le.mpr hlt (hgreatest e.1 hcontains hpe)
    rw [hsplit, List.filter_append, List.filter_cons, if_pos (by exact hp),
      List.filter_eq_nil_iff.mpr hafter, List.getLast?_concat]

end NameMap

end Switchboard
