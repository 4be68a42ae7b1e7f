/-!
# Maps keyed by name

Finite maps from names to values, kept in strictly ascending order of the names (by code point).
The order is part of the type, so two maps with the same bindings are equal and every listing of a
map comes out sorted. `find?_insert` and `find?_erase` say what the two updates do; everything else
about a map is read off `find?` and `entries`.

The operations on plain association lists come first: a JSON object keeps its members in such a
list without the proof.
-/

namespace Switchboard

/-! ## Ordered association lists -/

namespace Assoc

variable {α β : Type}

/-- The value bound to a name. -/
def find? (name : String) : List (String × α) → Option α
  | [] => none
  | (key, value) :: rest => if key = name then some value else find? name rest

/-- Binds a name in place, or before the first greater name. -/
def put (name : String) (value : α) : List (String × α) → List (String × α)
  | [] => [(name, value)]
  | (key, old) :: rest =>
    if name < key then (name, value) :: (key, old) :: rest
    else if key = name then (name, value) :: rest
    else (key, old) :: put name value rest

/-- Unbinds a name. -/
def remove (name : String) (entries : List (String × α)) : List (String × α) :=
  entries.filter (fun e => decide (e.1 ≠ name))

/-- Names ascend strictly. -/
def Ascending (entries : List (String × α)) : Prop :=
  entries.Pairwise (fun a b => a.1 < b.1)

instance (entries : List (String × α)) : Decidable (Ascending entries) :=
  inferInstanceAs (Decidable (List.Pairwise _ _))

theorem find?_put (name key : String) (value : α) (entries : List (String × α)) :
    find? key (put name value entries) = if name = key then some value else find? key entries := by
  induction entries with
  | nil => simp [put, find?]
  | cons e rest ih =>
    obtain ⟨k, v⟩ := e
    rw [put]
    split
    · simp [find?]
    · split
      · next h => subst h; by_cases hk : k = key <;> simp [find?, hk]
      · next h =>
        by_cases hk : k = key
        · subst hk; simp [find?, Ne.symm h]
        · simp [find?, hk, ih]

theorem mem_put {name : String} {value : α} {e : String × α} {entries : List (String × α)}
    (h : e ∈ put name value entries) : e = (name, value) ∨ e ∈ entries := by
  induction entries with
  | nil => simpa [put] using h
  | cons d rest ih =>
    obtain ⟨k, v⟩ := d
    rw [put] at h
    split at h
    · simpa using h
    · split at h
      · rcases List.mem_cons.1 h with h | h
        · exact .inl h
        · exact .inr (List.mem_cons_of_mem _ h)
      · rcases List.mem_cons.1 h with h | h
        · exact .inr (h ▸ List.mem_cons_self)
        · exact (ih h).imp id (List.mem_cons_of_mem _)

theorem lt_of_not_lt_of_ne {a b : String} (h : ¬ a < b) (hne : b ≠ a) : b < a := by
  rcases Decidable.em (b < a) with hlt | hlt
  · exact hlt
  · exact absurd (String.le_antisymm (String.not_lt.1 h) (String.not_lt.1 hlt)) hne

theorem ascending_put (name : String) (value : α) {entries : List (String × α)}
    (h : Ascending entries) : Ascending (put name value entries) := by
  induction entries with
  | nil => exact List.pairwise_singleton _ _
  | cons e rest ih =>
    obtain ⟨k, v⟩ := e
    have hrest : ∀ d ∈ rest, k < d.1 := fun _ hd => List.rel_of_pairwise_cons h hd
    rw [put]
    split
    · next hlt =>
      refine List.Pairwise.cons (fun d hd => ?_) h
      rcases List.mem_cons.1 hd with rfl | hd
      · exact hlt
      · exact String.lt_trans hlt (hrest d hd)
    · next hlt =>
      split
      · next heq => subst heq; exact List.Pairwise.cons hrest h.of_cons
      · next hne =>
        refine List.Pairwise.cons (fun d hd => ?_) (ih h.of_cons)
        rcases mem_put hd with rfl | hd
        · exact lt_of_not_lt_of_ne hlt hne
        · exact hrest d hd

theorem ascending_remove (name : String) {entries : List (String × α)} (h : Ascending entries) :
    Ascending (remove name entries) :=
  List.Pairwise.filter _ h

theorem find?_remove (name key : String) (entries : List (String × α)) :
    find? key (remove name entries) = if name = key then none else find? key entries := by
  induction entries with
  | nil => simp [remove, find?]
  | cons e rest ih =>
    obtain ⟨k, v⟩ := e
    by_cases hk : k = name
    · subst hk
      have : remove k ((k, v) :: rest) = remove k rest := by simp [remove]
      rw [this, ih]
      by_cases h : k = key <;> simp [find?, h]
    · have : remove name ((k, v) :: rest) = (k, v) :: remove name rest := by simp [remove, hk]
      rw [this, find?, find?, ih]
      by_cases h : k = key
      · subst h; simp [Ne.symm hk]
      · simp [h]

theorem ascending_map (f : α → β) {entries : List (String × α)} (h : Ascending entries) :
    Ascending (entries.map fun e => (e.1, f e.2)) := by
  unfold Ascending
  rw [List.pairwise_map]
  exact h

end Assoc

/-! ## Maps -/

/-- A finite map from names to values, listed by ascending name. -/
structure NameMap (α : Type) where
  entries : List (String × α)
  ascending : Assoc.Ascending entries

namespace NameMap

variable {α β : Type}

/-- The map that binds no name. -/
def empty : NameMap α := ⟨[], List.Pairwise.nil⟩

instance : Inhabited (NameMap α) := ⟨empty⟩

instance [Repr α] : Repr (NameMap α) := ⟨fun m p => reprPrec m.entries p⟩

instance [DecidableEq α] : DecidableEq (NameMap α) := fun a b =>
  if h : a.entries = b.entries then
    isTrue (by cases a; cases b; cases h; rfl)
  else isFalse (fun e => h (e ▸ rfl))

/-- The value bound to a name. -/
def find? (m : NameMap α) (name : String) : Option α :=
  Assoc.find? name m.entries

/-- Whether a name is bound. -/
def contains (m : NameMap α) (name : String) : Bool :=
  (m.find? name).isSome

/-- Binds a name, in place of what it was bound to. -/
def insert (m : NameMap α) (name : String) (value : α) : NameMap α :=
  ⟨Assoc.put name value m.entries, Assoc.ascending_put name value m.ascending⟩

/-- Binds a name unless it is bound already. -/
def insertNew (m : NameMap α) (name : String) (value : α) : NameMap α :=
  if m.contains name then m else m.insert name value

/-- Unbinds a name. -/
def erase (m : NameMap α) (name : String) : NameMap α :=
  ⟨Assoc.remove name m.entries, Assoc.ascending_remove name m.ascending⟩

/-- The bound names, ascending. -/
def keys (m : NameMap α) : List String :=
  m.entries.map (·.1)

/-- The values, by ascending name. -/
def values (m : NameMap α) : List α :=
  m.entries.map (·.2)

/-- How many names are bound. -/
def size (m : NameMap α) : Nat :=
  m.entries.length

/-- The map with a function applied to every value. -/
def map (f : α → β) (m : NameMap α) : NameMap β :=
  ⟨m.entries.map fun e => (e.1, f e.2), Assoc.ascending_map f m.ascending⟩

/-- Binds every pair in turn; the last pair of a name wins. -/
def ofList (pairs : List (String × α)) : NameMap α :=
  pairs.foldl (fun m e => m.insert e.1 e.2) empty

/-- Binds every pair in turn; the first pair of a name wins. -/
def ofListFirst (pairs : List (String × α)) : NameMap α :=
  pairs.foldl (fun m e => m.insertNew e.1 e.2) empty

@[simp] theorem find?_empty (name : String) : (empty : NameMap α).find? name = none := rfl

@[simp] theorem find?_insert (m : NameMap α) (name key : String) (value : α) :
    (m.insert name value).find? key = if name = key then some value else m.find? key :=
  Assoc.find?_put name key value m.entries

@[simp] theorem find?_erase (m : NameMap α) (name key : String) :
    (m.erase name).find? key = if name = key then none else m.find? key :=
  Assoc.find?_remove name key m.entries

end NameMap

/-! ## Sets of names -/

/-- A finite set of names, listed in ascending order. -/
abbrev NameSet := NameMap Unit

namespace NameSet

/-- The set of the listed names. -/
def ofNames (names : List String) : NameSet :=
  names.foldl (fun s name => s.insert name ()) NameMap.empty

end NameSet

end Switchboard
