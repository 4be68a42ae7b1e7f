import Switchboard.Proofs.CriticalService

/-!
# Which services are selected

Filters and the selection of the configuration add up: a service is built exactly if each of them
lets its name pass (`Passes`), by a deny list that does not have it and an allow list that has it or
is empty. So a manager depends on its filters only through the known names that pass all of them
(`selected_congr`, `choices_selected_congr`), and everything about their order, their repetition and names
of no service follows from what passes.
-/

namespace Switchboard

/-! ## Passing -/

/-- Whether a name is not on a deny list, and on an allow list unless that is empty. -/
def Passes (f : List String × List String) (name : String) : Prop :=
  name ∉ f.1 ∧ (f.2 = [] ∨ name ∈ f.2)

instance (f : List String × List String) (name : String) : Decidable (Passes f name) :=
  inferInstanceAs (Decidable (_ ∧ _))

/-- Whether a name passes every one of some deny and allow lists. -/
def PassesAll (fs : List (List String × List String)) (name : String) : Prop :=
  ∀ f ∈ fs, Passes f name

instance (fs : List (List String × List String)) (name : String) : Decidable (PassesAll fs name) :=
  inferInstanceAs (Decidable (∀ f ∈ fs, Passes f name))

/-- Whether two pairs of lists have the same of some names, and an empty allow list only together. -/
structure SameAmong (known : List String) (f f' : List String × List String) : Prop where
  denied : ∀ name ∈ known, name ∈ f.1 ↔ name ∈ f'.1
  allowed : ∀ name ∈ known, name ∈ f.2 ↔ name ∈ f'.2
  empty : f.2 = [] ↔ f'.2 = []

theorem isExcluded_eq_false_iff {f : List String × List String} {name : String} :
    isExcluded f.1 f.2 name = false ↔ Passes f name := by
  by_cases hempty : f.2 = [] <;> simp [isExcluded, Passes, hempty]

theorem SameAmong.passes_iff {known : List String} {f f' : List String × List String}
    (h : SameAmong known f f') {name : String} (hname : name ∈ known) :
    Passes f name ↔ Passes f' name := by
  rw [Passes, Passes, h.denied name hname, h.allowed name hname, h.empty]

theorem passesAll_congr_of_mem_iff {fs fs' : List (List String × List String)}
    (h : ∀ f, f ∈ fs ↔ f ∈ fs') (name : String) : PassesAll fs name ↔ PassesAll fs' name :=
  forall_congr' fun f => imp_congr_left (h f)

theorem passesAll_congr_of_sameAmong {known : List String}
    {fs fs' : List (List String × List String)} (h : List.Forall₂ (SameAmong known) fs fs')
    {name : String} (hname : name ∈ known) : PassesAll fs name ↔ PassesAll fs' name := by
  induction h with
  | nil => rfl
  | cons hfirst _ ih =>
    simp only [PassesAll, List.forall_mem_cons] at ih ⊢
    exact and_congr (hfirst.passes_iff hname) ih

/-- The selection of a configuration. -/
def Config.selection (config : Config) : List String × List String :=
  (config.disabledServices, config.enabledServices)

theorem leftOutBy_eq_false_iff {filters : List (List String × List String)} {name : String} :
    Manager.leftOutBy filters name = false ↔ PassesAll filters name := by
  simp only [Manager.leftOutBy, List.any_eq_false, Bool.not_eq_true, isExcluded_eq_false_iff,
    PassesAll]

theorem leavesOut_leftOutBy_eq_false_iff {filters : List (List String × List String)}
    {config : Config} {name : String} :
    config.leavesOut (Manager.leftOutBy filters) name = false ↔
      PassesAll (filters ++ [config.selection]) name := by
  rw [Config.leavesOut, Bool.or_eq_false_iff, leftOutBy_eq_false_iff, PassesAll, PassesAll,
    List.forall_mem_append, List.forall_mem_singleton]
  exact and_congr_right fun _ => isExcluded_eq_false_iff (f := config.selection)

/-! ## What becomes of an entry -/

variable {σ : Type}

/-- What a start makes of an entry, as far as the selection goes. -/
structure Slot.ChosenBy (out : String → Bool) (e : CatalogEntry σ) (s : Slot σ) : Prop where
  name : s.name = e.name
  excluded : s.excluded = out e.name
  constructed : s.calls.constructed = if out e.name then 0 else 1

/-- Whether an entry is left out, and how often its service was built. -/
structure Choice where
  name : String
  excluded : Bool
  constructed : Nat
  deriving Repr, DecidableEq

namespace Manager

/-- What was chosen, in catalog order. -/
def choices (m : Manager σ) : List Choice :=
  m.slots.map fun s => ⟨s.name, s.excluded, s.calls.constructed⟩

theorem activeNames_eq (m : Manager σ) :
    m.activeNames = (m.choices.filter (!·.excluded)).map (·.name) := by
  rw [activeNames, choices, List.filter_map, List.map_map]
  rfl

variable (c : Catalog σ) {out out' : String → Bool} {m : Manager σ}

theorem choices_of_chosenBy (h : List.Forall₂ (Slot.ChosenBy out) c.entries m.slots) :
    m.choices = c.names.map fun name => ⟨name, out name, if out name then 0 else 1⟩ := by
  rw [choices, Catalog.names, List.map_map]
  refine (List.forall₂_eq_eq_eq ▸ ?_ : List.map _ c.entries = List.map _ m.slots).symm
  refine List.forall₂_map_left_iff.mpr (List.forall₂_map_right_iff.mpr (h.imp fun e s hs => ?_))
  rw [Function.comp, hs.name, hs.excluded, hs.constructed]

theorem activeNames_of_chosenBy (h : List.Forall₂ (Slot.ChosenBy out) c.entries m.slots) :
    m.activeNames = c.names.filter (!out ·) := by
  rw [activeNames_eq, choices_of_chosenBy c h, List.filter_map, List.map_map]
  exact List.map_id _

theorem awaiting_congr (h : ∀ name ∈ c.names, out name = out' name) (d : DisabledTools)
    (shutDown : Bool) : awaiting c out d shutDown = awaiting c out' d shutDown := by
  have hslot : ∀ e ∈ c.entries, Slot.awaiting out e = Slot.awaiting out' e := fun e he => by
    rw [Slot.awaiting, h e.name (List.mem_map_of_mem he)]
    rfl
  simp only [awaiting, mk.injEq, and_true]
  exact ⟨hslot _ List.mem_cons_self,
    List.map_congr_left fun e he => hslot e (List.mem_cons_of_mem _ he)⟩

end Manager

variable [Lifecycle σ]

namespace Slot

theorem chosenBy_built (out : String → Bool) (e : CatalogEntry σ) : ChosenBy out e (built out e) :=
  ⟨name_built out e, excluded_built out e, by rw [calls_built]⟩

theorem constructed_start (config : Config) (s : Slot σ) :
    (s.start config).1.calls.constructed = s.calls.constructed := by
  unfold start
  split <;> rfl

theorem ChosenBy.start {out : String → Bool} {e : CatalogEntry σ} {s : Slot σ}
    (h : ChosenBy out e s) (config : Config) : ChosenBy out e (s.start config).1 :=
  ⟨(name_start config s).trans h.name, (excluded_start config s).trans h.excluded,
    (constructed_start config s).trans h.constructed⟩

end Slot

/-! ## Filters and a start -/

namespace Manager

variable (c : Catalog σ)

/-- Whether the critical service starts or not, a start builds what is not left out. -/
theorem chosenBy_start_awaiting (out : String → Bool) (d : DisabledTools) (shutDown : Bool)
    (config : Config) :
    List.Forall₂ (Slot.ChosenBy (config.leavesOut out)) c.entries
      ((awaiting c out d shutDown).start config).2.slots := by
  have hcritical : Slot.ChosenBy (config.leavesOut out) c.critical
      ((Slot.built (config.leavesOut out) c.critical).start config).1 :=
    (Slot.chosenBy_built _ _).start config
  by_cases h : c.CriticalStarts (config.leavesOut out) config
  · obtain ⟨ledger, hstart⟩ := start_awaiting_ok c out d shutDown config h
    rw [hstart]
    exact .cons hcritical (forall₂_map_of_forall fun e _ => (Slot.chosenBy_built _ e).start config)
  · obtain ⟨message, ledger, hstart, -⟩ := start_awaiting_error c out d shutDown config h
    rw [hstart]
    exact .cons hcritical (forall₂_map_of_forall fun e _ => Slot.chosenBy_built _ e)

/-- The manager after filters and a start. -/
def selected (filters : List (List String × List String)) (config : Config) : Manager σ :=
  (ofCatalog c).run (filters.map (fun f => .filter f.1 f.2) ++ [.start config])

theorem selected_eq (filters : List (List String × List String)) (config : Config) :
    selected c filters config =
      ((awaiting c (leftOutBy filters) .empty false).start config).2 := by
  rw [selected, run_append, ofCatalog_eq_awaiting, run_filters_awaiting]
  simp only [Bool.false_or]
  rfl

theorem chosenBy_selected (filters : List (List String × List String)) (config : Config) :
    List.Forall₂ (Slot.ChosenBy (config.leavesOut (leftOutBy filters))) c.entries
      (selected c filters config).slots := by
  rw [selected_eq]
  exact chosenBy_start_awaiting c _ _ _ config

/-- Filters that let the same known names pass make the same of a manager. -/
theorem selected_congr {filters filters' : List (List String × List String)} (config : Config)
    (h : ∀ name ∈ c.names, PassesAll filters name ↔ PassesAll filters' name) :
    selected c filters config = selected c filters' config := by
  rw [selected_eq, selected_eq, awaiting_congr c fun name hname => ?_]
  rw [Bool.eq_iff_iff, ← not_iff_not, Bool.not_eq_true, Bool.not_eq_true,
    leftOutBy_eq_false_iff, leftOutBy_eq_false_iff, h name hname]

/-- Together with the selections of two configurations, they choose the same. -/
theorem choices_selected_congr {filters filters' : List (List String × List String)}
    {config config' : Config}
    (h : ∀ name ∈ c.names, PassesAll (filters ++ [config.selection]) name ↔
      PassesAll (filters' ++ [config'.selection]) name) :
    (selected c filters config).choices = (selected c filters' config').choices := by
  rw [choices_of_chosenBy c (chosenBy_selected c filters config),
    choices_of_chosenBy c (chosenBy_selected c filters' config')]
  refine List.map_congr_left fun name hname => ?_
  have hout : config.leavesOut (leftOutBy filters) name =
      config'.leavesOut (leftOutBy filters') name := by
    rw [Bool.eq_iff_iff, ← not_iff_not, Bool.not_eq_true, Bool.not_eq_true,
      leavesOut_leftOutBy_eq_false_iff, leavesOut_leftOutBy_eq_false_iff, h name hname]
  rw [hout]

/-- After any filters and a start, an entry is not left out, and its service was built once, exactly
if its name passes every filter and the selection of the configuration; otherwise it is left out and
nothing was built. The names that pass are the active ones, in catalog order. Filters in another
order or number make the same manager, and so do filters with other names of no service, as long as
an empty allow list stays empty and no other becomes empty; the selection of the configuration
counts like one more filter. A name on both lists of a filter is left out. -/
theorem built_iff_passes_all (filters : List (List String × List String)) (config : Config) :
    let m := (ofCatalog c).run (filters.map (fun f => .filter f.1 f.2) ++ [.start config])
    let selections := filters ++ [(config.disabledServices, config.enabledServices)]
    List.Forall₂
      (fun e s => s.name = e.name ∧
        (s.excluded = false ∧ s.calls.constructed = 1 ↔
          ∀ f ∈ selections, e.name ∉ f.1 ∧ (f.2 = [] ∨ e.name ∈ f.2)) ∧
        (s.excluded = false ∧ s.calls.constructed = 1 ∨
          s.excluded = true ∧ s.calls.constructed = 0))
      c.entries m.slots ∧
    m.activeNames = c.names.filter (PassesAll selections ·) ∧
    (∀ filters', (∀ f, f ∈ filters' ↔ f ∈ filters) → selected c filters' config = m) ∧
    (∀ filters', List.Forall₂ (SameAmong c.names) filters' filters →
      selected c filters' config = m) ∧
    (∀ filters' config',
      (∀ f, f ∈ filters' ++ [config'.selection] ↔ f ∈ selections) ∨
        List.Forall₂ (SameAmong c.names) (filters' ++ [config'.selection]) selections →
      (selected c filters' config').choices = m.choices) ∧
    ∀ f ∈ selections, ∀ name ∈ f.1, name ∈ f.2 → name ∉ m.activeNames := by
  intro m selections
  have hchosen := chosenBy_selected c filters config
  have hactive : m.activeNames = c.names.filter (PassesAll selections ·) := by
    rw [show m = selected c filters config from rfl, activeNames_of_chosenBy c hchosen]
    refine List.filter_congr fun name _ => ?_
    rw [Bool.eq_iff_iff, decide_eq_true_iff, Bool.not_eq_true', leavesOut_leftOutBy_eq_false_iff]
    rfl
  refine ⟨?_, hactive, fun filters' h => ?_, fun filters' h => ?_, fun filters' config' h => ?_,
    fun f hf name hdenied _ hmem => ?_⟩
  · refine hchosen.imp fun e s hs => ⟨hs.name, ?_⟩
    have hpasses : config.leavesOut (leftOutBy filters) e.name = false ↔
        PassesAll selections e.name := leavesOut_leftOutBy_eq_false_iff
    rw [hs.excluded, hs.constructed]
    refine ⟨Iff.trans ?_ hpasses, ?_⟩ <;>
      cases config.leavesOut (leftOutBy filters) e.name <;> simp
  · exact selected_congr c config fun name _ => passesAll_congr_of_mem_iff h name
  · exact selected_congr c config fun name hname => passesAll_congr_of_sameAmong h hname
  · refine choices_selected_congr c fun name hname => ?_
    rcases h with hmem | hsame
    · exact passesAll_congr_of_mem_iff hmem name
    · exact passesAll_congr_of_sameAmong hsame hname
  · rw [hactive, List.mem_filter, decide_eq_true_iff] at hmem
    exact (hmem.2 f hf).1 hdenied

/-- Filters twice and the other way round, with a name of no service on an allow list. -/
theorem built_of_repeated_filters :
    let service (name : String) : CatalogEntry Service := ⟨name, .scripted { name := name } false⟩
    let c : Catalog Service := ⟨service "core", [service "a", service "b", service "d"]⟩
    let m := selected c [(["a"], []), ([], ["core", "a", "b", "x"])] { disabledServices := ["b", "y"] }
    m.activeNames = ["core"] ∧
      selected c [([], ["core", "a", "b", "x"]), (["a"], []), (["a"], [])]
        { disabledServices := ["b", "y"] } = m := by
  intro service c m
  obtain ⟨-, hactive, horder, -⟩ := built_iff_passes_all c
    [(["a"], []), ([], ["core", "a", "b", "x"])] { disabledServices := ["b", "y"] }
  exact ⟨hactive.trans (by decide), horder _ fun f => by simp [or_comm]⟩

end Manager

end Switchboard
