import Switchboard.Manager.Basic
import Switchboard.Proofs.NameMap

/-!
# Which service a tool comes from

A merge goes over services, and within a service over definitions, and at each definition it either
enters a tool or does not. `take_cases` says once what can happen at a definition; `Plan.Holds` is
what a plan knows about one name, and the `holds_…` lemmas carry it through a turn and through the
whole merge. The outcome is `holds_registration`: under a name that is not disabled there is the
first tool that any service brings, and services take their turn by ascending name.

`find?_tools_registerTools` reads this off the table of a manager. What a merge enters it enters under
one name each and counts (`Plan.Counted`), so the table holds exactly what was entered.
-/

namespace Switchboard

variable {η : Type}

/-! ## What an offer brings -/

namespace Offer

/-- The tool that an offer brings under a name: its first definition of the name, with the handler
of the name. -/
def tool? (o : Offer η) (name : String) : Option (Tool η) :=
  (o.definitions.find? (·.name == name)).bind fun d => (o.handlers.find? name).map (⟨d, ·⟩)

theorem tool?_eq_some {o : Offer η} {name : String} {tool : Tool η} :
    o.tool? name = some tool ↔
      o.definitions.find? (·.name == name) = some tool.definition ∧
        o.handlers.find? name = some tool.handler := by
  rw [tool?, Option.bind_eq_some_iff]
  constructor
  · rintro ⟨d, hd, hmap⟩
    obtain ⟨h, hh, rfl⟩ := Option.map_eq_some_iff.mp hmap
    exact ⟨hd, hh⟩
  · rintro ⟨hd, hh⟩
    exact ⟨tool.definition, hd, by rw [hh]; rfl⟩

theorem isSome_tool? {o : Offer η} {name : String} :
    (o.tool? name).isSome ↔
      (∃ d ∈ o.definitions, d.name = name) ∧ o.handlers.contains name = true := by
  rw [tool?, NameMap.contains]
  cases hd : o.definitions.find? (·.name == name) with
  | none =>
    have hnone := List.find?_eq_none.mp hd
    simp only [Option.bind_none, Option.isSome_none, Bool.false_eq_true, false_iff, not_and]
    rintro ⟨d, hmem, hname⟩
    exact absurd (beq_iff_eq.mpr hname) (hnone d hmem)
  | some d =>
    have hname := List.find?_some hd
    simp only [beq_iff_eq] at hname
    simp only [Option.bind_some, Option.isSome_map, iff_and_self]
    exact fun _ => ⟨d, List.mem_of_find?_eq_some hd, hname⟩

/-- Once its handler is taken, a name brings nothing any more. -/
theorem tool?_erase_self (definitions : List ToolDefinition) (left : NameMap η) (name : String) :
    (⟨definitions, left.erase name⟩ : Offer η).tool? name = none := by
  rw [tool?, NameMap.find?_erase, if_pos rfl]
  cases definitions.find? (·.name == name) <;> rfl

theorem tool?_cons (d : ToolDefinition) (rest : List ToolDefinition) (left : NameMap η)
    (name : String) :
    (⟨d :: rest, left⟩ : Offer η).tool? name =
      if d.name = name then (left.find? name).map (⟨d, ·⟩)
      else (⟨rest, left.erase d.name⟩ : Offer η).tool? name := by
  simp only [tool?, List.find?_cons]
  by_cases h : d.name = name
  · simp [h]
  · have hne : (d.name == name) = false := beq_eq_false_iff_ne.mpr h
    simp [h, hne]

end Offer

namespace Plan

/-! ## What can happen at a definition -/

/-- A definition takes its handler, whatever comes of it. -/
@[simp] theorem take_snd (disabled : DisabledTools) (service : String) (p : Plan η)
    (left : NameMap η) (d : ToolDefinition) :
    (take disabled service (p, left) d).2 = left.erase d.name := by
  simp only [take]
  split
  · rfl
  · split
    · rfl
    · split <;> rfl

theorem take_cases (disabled : DisabledTools) (service : String) (p : Plan η) (left : NameMap η)
    (d : ToolDefinition) :
    (disabled.contains d.name = true ∧ (take disabled service (p, left) d).1 = p.skip) ∨
      (disabled.contains d.name = false ∧ left.find? d.name = none ∧
        (take disabled service (p, left) d).1 = p.refuseOrphan d.name service) ∨
      (∃ handler owner, disabled.contains d.name = false ∧ left.find? d.name = some handler ∧
        p.owners.find? d.name = some owner ∧
        (take disabled service (p, left) d).1 = p.refuseDuplicate d.name service owner) ∨
      (∃ handler, disabled.contains d.name = false ∧ left.find? d.name = some handler ∧
        p.owners.find? d.name = none ∧
        (take disabled service (p, left) d).1 = p.enter service d handler) := by
  cases hdisabled : disabled.contains d.name with
  | true => exact .inl ⟨rfl, by simp [take, hdisabled]⟩
  | false =>
    cases hhandler : left.find? d.name with
    | none => exact .inr (.inl ⟨rfl, rfl, by simp [take, hdisabled, hhandler]⟩)
    | some handler =>
      cases howner : p.owners.find? d.name with
      | none =>
        exact .inr (.inr (.inr
          ⟨handler, rfl, rfl, rfl, by simp [take, hdisabled, hhandler, howner]⟩))
      | some owner =>
        exact .inr (.inr (.inl
          ⟨handler, owner, rfl, rfl, rfl, by simp [take, hdisabled, hhandler, howner]⟩))

/-- Handlers that are left over change the defects and their number, and nothing else. -/
theorem foldl_reportUnadvertised (service : String) (tools : List String) (p : Plan η) :
    tools.foldl (reportUnadvertised service) p =
      { p with
        defects := p.defects ++ tools.map (.unadvertised · service)
        summary :=
          { p.summary with unadvertised := p.summary.unadvertised + tools.length } } := by
  induction tools generalizing p with
  | nil => simp
  | cons tool rest ih =>
    rw [List.foldl_cons, ih]
    simp [reportUnadvertised, Nat.add_comm, Nat.add_left_comm]

/-! ## What a plan holds under a name -/

/-- What a plan has entered under a name: for which service, and which tool. -/
def Holds (p : Plan η) (name : String) (entry : Option (String × Tool η)) : Prop :=
  p.owners.find? name = entry.map (·.1) ∧
    (Table.toolsOf p.entries).find? name = entry.map (·.2)

theorem holds_empty (name : String) : (empty : Plan η).Holds name none := ⟨rfl, rfl⟩

theorem find?_toolsOf_append (entries : List (ToolDefinition × η)) (d : ToolDefinition)
    (handler : η) (name : String) :
    (Table.toolsOf (entries ++ [(d, handler)])).find? name =
      ((Table.toolsOf entries).find? name).or
        (if d.name = name then some ⟨d, handler⟩ else none) := by
  rw [Table.toolsOf, NameMap.ofListFirst, List.map_append, List.foldl_append]
  exact NameMap.find?_insertNew _ _ _ _

/-- At a definition of another name nothing changes, and neither does it where the tool is
disabled, its handler is gone or its name is taken. -/
theorem holds_take {p : Plan η} {name : String} {entry : Option (String × Tool η)}
    (h : p.Holds name entry) (disabled : DisabledTools) (service : String) (left : NameMap η)
    (d : ToolDefinition) :
    (take disabled service (p, left) d).1.Holds name
      (entry.or (if disabled.contains name then none
        else if d.name = name then (left.find? name).map fun handler => (service, ⟨d, handler⟩)
        else none)) := by
  obtain ⟨howner, htool⟩ := h
  rcases take_cases disabled service p left d with
    ⟨hd, heq⟩ | ⟨hd, hl, heq⟩ | ⟨handler, owner, hd, hl, ho, heq⟩ | ⟨handler, hd, hl, ho, heq⟩
  · rw [heq]
    by_cases hname : d.name = name
    · subst hname
      simpa [Holds, skip, hd] using ⟨howner, htool⟩
    · simpa [Holds, skip, hname] using ⟨howner, htool⟩
  · rw [heq]
    by_cases hname : d.name = name
    · subst hname
      simpa [Holds, refuseOrphan, hl] using ⟨howner, htool⟩
    · simpa [Holds, refuseOrphan, hname] using ⟨howner, htool⟩
  · rw [heq]
    by_cases hname : d.name = name
    · subst hname
      cases entry with
      | none => rw [howner] at ho; cases ho
      | some e => exact ⟨howner, htool⟩
    · simpa [Holds, refuseDuplicate, hname] using ⟨howner, htool⟩
  · rw [heq]
    by_cases hname : d.name = name
    · subst hname
      cases entry with
      | none =>
        simp only [Holds, enter, find?_toolsOf_append, htool]
        simp [hd, hl]
      | some e => rw [howner] at ho; cases ho
    · simp only [Holds, enter, find?_toolsOf_append, NameMap.find?_insert]
      simpa [hname] using ⟨howner, htool⟩

theorem holds_foldl_take {p : Plan η} {name : String} {entry : Option (String × Tool η)}
    (h : p.Holds name entry) (disabled : DisabledTools) (service : String)
    (definitions : List ToolDefinition) (left : NameMap η) :
    (definitions.foldl (take disabled service) (p, left)).1.Holds name
      (entry.or (if disabled.contains name then none
        else ((⟨definitions, left⟩ : Offer η).tool? name).map (service, ·))) := by
  induction definitions generalizing p entry left with
  | nil => simpa [Offer.tool?] using h
  | cons d rest ih =>
    have hstep := holds_take h disabled service left d
    have hrest := ih hstep (left.erase d.name)
    rw [Option.or_assoc] at hrest
    rw [List.foldl_cons, ← Prod.eta (take disabled service (p, left) d), take_snd, Offer.tool?_cons]
    cases hdisabled : disabled.contains name with
    | true => simpa [hdisabled] using hrest
    | false =>
      by_cases hname : d.name = name
      · subst hname
        rw [Offer.tool?_erase_self] at hrest
        simpa [hdisabled, Function.comp_def] using hrest
      · simpa [hdisabled, hname] using hrest

theorem holds_turn {p : Plan η} {name : String} {entry : Option (String × Tool η)}
    (h : p.Holds name entry) (disabled : DisabledTools) (service : String × Offer η) :
    (turn disabled p service).Holds name
      (entry.or (if disabled.contains name then none
        else (service.2.tool? name).map (service.1, ·))) := by
  have htaken := holds_foldl_take h disabled service.1 service.2.definitions service.2.handlers
  simp only [turn, foldl_reportUnadvertised]
  exact htaken

theorem holds_foldl_turn {p : Plan η} {name : String} {entry : Option (String × Tool η)}
    (h : p.Holds name entry) (disabled : DisabledTools) (services : List (String × Offer η)) :
    (services.foldl (turn disabled) p).Holds name
      (entry.or (if disabled.contains name then none
        else services.findSome? fun s => (s.2.tool? name).map (s.1, ·))) := by
  induction services generalizing p entry with
  | nil => simpa using h
  | cons service rest ih =>
    have hrest := ih (holds_turn h disabled service)
    rw [Option.or_assoc] at hrest
    rw [List.foldl_cons, List.findSome?_cons]
    cases hdisabled : disabled.contains name with
    | true => simpa [hdisabled] using hrest
    | false =>
      cases htool : service.2.tool? name with
      | none => simpa [hdisabled, htool] using hrest
      | some tool => simpa [hdisabled, htool] using hrest

end Plan

/-- Under a name that is not disabled a merge holds the first tool that any service brings. -/
theorem holds_registration (disabled : DisabledTools) (offers : NameMap (Offer η))
    (name : String) :
    (registration disabled offers).Holds name
      (if disabled.contains name then none
        else offers.entries.findSome? fun s => (s.2.tool? name).map (s.1, ·)) := by
  have h := Plan.holds_foldl_turn (Plan.holds_empty name) disabled offers.entries
  rwa [Option.none_or] at h

/-- What the empty plan has, and what no definition and no report takes away, the plan of every merge
has. -/
theorem registration_induction {P : Plan η → Prop} {disabled : DisabledTools} (hempty : P .empty)
    (htake : ∀ p service left d, P p → P (Plan.take disabled service (p, left) d).1)
    (hreport : ∀ p service tool, P p → P (Plan.reportUnadvertised service p tool))
    (offers : NameMap (Offer η)) : P (registration disabled offers) := by
  refine List.foldlRecOn offers.entries _ hempty fun p hp service _ => ?_
  have htaken : P (service.2.definitions.foldl (Plan.take disabled service.1)
      (p, service.2.handlers)).1 :=
    List.foldlRecOn (motive := fun state : Plan η × NameMap η => P state.1) service.2.definitions
      (Plan.take disabled service.1) hp
      fun state hstate d _ => htake state.1 service.1 state.2 d hstate
  exact List.foldlRecOn _ _ htaken fun q hq tool _ => hreport q service.1 tool hq

/-! ## What a plan counts -/

namespace Plan

variable {p : Plan η}

/-- The entries of a plan have different names, each with an owner, and are counted. -/
structure Counted (p : Plan η) : Prop where
  nodup : (p.entries.map (·.1.name)).Nodup
  owned : ∀ e ∈ p.entries, p.owners.find? e.1.name ≠ none
  registered : p.summary.registered = p.entries.length

theorem counted_empty : Counted (empty : Plan η) := ⟨List.nodup_nil, by simp [empty], rfl⟩

theorem Counted.enter (h : p.Counted) {d : ToolDefinition} (hfree : p.owners.find? d.name = none)
    (service : String) (handler : η) : (p.enter service d handler).Counted := by
  refine ⟨?_, ?_, ?_⟩
  · simp only [Plan.enter, List.map_append, List.nodup_append]
    refine ⟨h.nodup, by simp, ?_⟩
    intro name hname other hother heq
    obtain ⟨e, he, rfl⟩ := List.mem_map.mp hname
    obtain rfl := List.mem_singleton.mp hother
    exact h.owned e he (heq ▸ hfree)
  · intro e he
    simp only [Plan.enter, NameMap.find?_insert]
    rcases List.mem_append.mp he with he | he
    · by_cases hname : d.name = e.1.name
      · simp [hname]
      · simpa [hname] using h.owned e he
    · obtain rfl := List.mem_singleton.mp he
      simp
  · simp [Plan.enter, h.registered]

theorem Counted.take (h : p.Counted) (disabled : DisabledTools) (service : String)
    (left : NameMap η) (d : ToolDefinition) :
    (take disabled service (p, left) d).1.Counted := by
  rcases take_cases disabled service p left d with
    ⟨-, heq⟩ | ⟨-, -, heq⟩ | ⟨handler, owner, -, -, -, heq⟩ | ⟨handler, -, -, hfree, heq⟩
  · rw [heq]
    exact ⟨h.nodup, h.owned, h.registered⟩
  · rw [heq]
    exact ⟨h.nodup, h.owned, h.registered⟩
  · rw [heq]
    exact ⟨h.nodup, h.owned, h.registered⟩
  · rw [heq]
    exact h.enter hfree service handler

end Plan

theorem counted_registration (disabled : DisabledTools) (offers : NameMap (Offer η)) :
    (registration disabled offers).Counted :=
  registration_induction Plan.counted_empty
    (fun _ service left d hp => hp.take disabled service left d)
    (fun _ _ _ hp => ⟨hp.nodup, hp.owned, hp.registered⟩) offers

/-! ## The table of a manager -/

namespace Manager

variable {σ : Type} [Provider σ]

/-- The first enabled service, by name, that brings a tool, with the tool. -/
def supplier? (m : Manager σ) (name : String) : Option (String × Tool Handler) :=
  (m.registry.enabled.map Offer.of).entries.findSome? fun s =>
    (s.2.tool? name).map (s.1, ·)

theorem supplier?_eq_some {m : Manager σ} {name service : String} {tool : Tool Handler} :
    m.supplier? name = some (service, tool) ↔
      (∃ s, m.registry.enabled.find? service = some s ∧
        (Offer.of s).tool? name = some tool) ∧
      ∀ other s, m.registry.enabled.find? other = some s →
        ((Offer.of s).tool? name).isSome → service ≤ other := by
  rw [supplier?, NameMap.findSome?_entries (f := fun o : Offer Handler => o.tool? name)]
  simp only [NameMap.find?_map, Option.map_eq_some_iff]
  constructor
  · rintro ⟨⟨_, ⟨s, hs, rfl⟩, htool⟩, hleast⟩
    exact ⟨⟨s, hs, htool⟩, fun other s' hs' => hleast other _ ⟨s', hs', rfl⟩⟩
  · rintro ⟨⟨s, hs, htool⟩, hleast⟩
    refine ⟨⟨_, ⟨s, hs, rfl⟩, htool⟩, ?_⟩
    rintro other _ ⟨s', hs', rfl⟩
    exact hleast other s' hs'

theorem isSome_supplier? {m : Manager σ} {name : String} :
    (m.supplier? name).isSome ↔
      ∃ service s, m.registry.enabled.find? service = some s ∧
        ((Offer.of s).tool? name).isSome := by
  rw [supplier?, List.findSome?_isSome_iff]
  constructor
  · rintro ⟨⟨service, o⟩, hmem, hsome⟩
    rw [NameMap.mem_entries, NameMap.find?_map] at hmem
    obtain ⟨s, hs, rfl⟩ := Option.map_eq_some_iff.mp hmem
    exact ⟨service, s, hs, by simpa using hsome⟩
  · rintro ⟨service, s, hs, hsome⟩
    refine ⟨(service, Offer.of s), ?_, by simpa using hsome⟩
    rw [NameMap.mem_entries, NameMap.find?_map, hs]
    rfl

/-- What registering leaves under a name does not depend on the table before. -/
theorem find?_tools_registerTools (m : Manager σ) (t : Table Handler) (name : String) :
    (m.registerTools t).2.tools.find? name =
      if m.disabled.contains name then none else (m.supplier? name).map (·.2) := by
  have htool := (holds_registration m.disabled (m.registry.enabled.map Offer.of) name).2
  rw [apply_ite (Option.map _)] at htool
  exact htool

/-- The table of a manager holds the entries of its plan and nothing else. -/
theorem perm_tools_registerTools (m : Manager σ) (t : Table Handler) :
    (m.registerTools t).2.tools.entries.Perm
      (m.plan.entries.map fun e => (e.1.name, ⟨e.1, e.2⟩)) := by
  have hnodup := (counted_registration m.disabled (m.registry.enabled.map Offer.of)).nodup
  refine NameMap.perm_ofListFirst ?_
  rw [List.map_map]
  exact hnodup

theorem size_registerTools (m : Manager σ) (t : Table Handler) :
    (m.registerTools t).2.size = (m.registerTools t).1.registered := by
  have hcounted := counted_registration m.disabled (m.registry.enabled.map Offer.of)
  have hlength := (perm_tools_registerTools m t).length_eq
  rw [List.length_map] at hlength
  exact hlength.trans hcounted.registered.symm

/-- After registering, a tool is in the table exactly if it is not disabled and some enabled service
both offers it and has a handler for it. -/
theorem contains_registerTools_iff (m : Manager σ) (t : Table Handler) (name : String) :
    (m.registerTools t).2.contains name = true ↔
      m.disabled.contains name = false ∧
        ∃ service s, m.registry.enabled.find? service = some s ∧
          (∃ d ∈ Provider.definitions s, d.name = name) ∧
          (Provider.handlers s).contains name = true := by
  rw [Table.contains, NameMap.contains, find?_tools_registerTools]
  cases hdisabled : m.disabled.contains name with
  | true => simp
  | false =>
    simp only [Bool.false_eq_true, if_false, Option.isSome_map, true_and]
    rw [isSome_supplier?]
    simp only [Offer.isSome_tool?]
    rfl

/-- A tool is in the table exactly if it is not disabled and some enabled service both offers it
and has a handler for it. It comes from the service of the least name among those, with that
service's first definition of the name and its handler; of what was in the table before nothing is
left. -/
theorem registered_from_least_service (m : Manager σ) (t : Table Handler) (name : String) :
    ((m.registerTools t).2.contains name = true ↔
      m.disabled.contains name = false ∧
        ∃ service s, m.registry.enabled.find? service = some s ∧
          (∃ d ∈ Provider.definitions s, d.name = name) ∧
          (Provider.handlers s).contains name = true) ∧
    (∀ tool, (m.registerTools t).2.tools.find? name = some tool →
      ∃ service s, m.registry.enabled.find? service = some s ∧
        (Provider.definitions s).find? (·.name == name) = some tool.definition ∧
        (Provider.handlers s).find? name = some tool.handler ∧
        ∀ other s', m.registry.enabled.find? other = some s' →
          (∃ d ∈ Provider.definitions s', d.name = name) →
          (Provider.handlers s').contains name = true → service ≤ other) ∧
    ∀ t' : Table Handler, (m.registerTools t').2.tools = (m.registerTools t).2.tools := by
  refine ⟨m.contains_registerTools_iff t name, ?_, fun _ => rfl⟩
  intro tool htool
  rw [find?_tools_registerTools] at htool
  split at htool
  · cases htool
  · obtain ⟨⟨service, _⟩, hsupplier, rfl⟩ := Option.map_eq_some_iff.mp htool
    obtain ⟨⟨s, hs, hbrings⟩, hleast⟩ := supplier?_eq_some.mp hsupplier
    obtain ⟨hdefinition, hhandler⟩ := Offer.tool?_eq_some.mp hbrings
    exact ⟨service, s, hs, hdefinition, hhandler, fun other s' hs' hoffers hcarries =>
      hleast other s' hs' (Offer.isSome_tool?.mpr ⟨hoffers, hcarries⟩)⟩

end Manager

end Switchboard
