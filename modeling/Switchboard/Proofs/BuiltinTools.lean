import Mathlib.Data.List.Pairwise
import Switchboard.Builtin
import Switchboard.Proofs.Defects
import Switchboard.Proofs.Naming
import Switchboard.Proofs.Run

/-!
# The builtin services fit together

Whatever is done with a manager of the builtin services, there is nothing to report of its tools
(`builtin_registers_cleanly`). Three things come together:

- what a slot holds stays the service of its entry, whatever its state, because starting and closing
  do not change what a service is (`Slot.Invariant`);
- a builtin service offers, in every state, exactly the tools it has handlers for, and none twice;
- no two of the tables have a tool in common (`nodup_tools`), which is decided.

A manager whose enabled services are like this is `IsCoherent`, and a merge of such services is
clean.
-/

namespace Switchboard

variable {σ : Type}

/-! ## What every operation keeps -/

namespace Slot

variable [Lifecycle σ]

/-- A property of slots that nothing done with a slot takes away. -/
structure Invariant (P : Slot σ → Prop) : Prop where
  exclude : ∀ s, P s → P s.exclude
  construct : ∀ s, P s → P s.construct.1
  start : ∀ s config, P s → P (s.start config).1
  close : ∀ s, P s → P s.close.1

/-- The service that a slot builds or has built is of some kind. -/
def Holds (P : σ → Prop) (s : Slot σ) : Prop :=
  ∀ service, s.blueprint = some service ∨ s.service = some service → P service

/-- A slot goes on holding services of a kind that they do not lose when they are started or
closed. -/
theorem invariant_holds {P : σ → Prop}
    (hstart : ∀ service config, P service → P (Lifecycle.start service config).2)
    (hclose : ∀ service, P service → P (Lifecycle.close service).2) :
    Invariant (Holds P : Slot σ → Prop) where
  exclude s h service hservice := by
    rcases hservice with hservice | hservice
    · cases hservice
    · exact h service (.inr hservice)
  construct s h service hservice := by
    rcases hservice with hservice | hservice
    · rw [blueprint_construct] at hservice
      cases hservice
    · unfold construct at hservice
      split at hservice
      · exact h service (.inr hservice)
      · next built hbuilt =>
        dsimp only at hservice
        split at hservice
        · obtain rfl := Option.some.inj hservice
          exact h built (.inl hbuilt)
        · exact h service (.inr hservice)
  start s config h service hservice := by
    unfold Slot.start at hservice
    split at hservice
    · exact h service hservice
    · next before hbefore =>
      rcases hservice with hservice | hservice
      · exact h service (.inl hservice)
      · obtain rfl := Option.some.inj hservice
        exact hstart before config (h before (.inr hbefore))
  close s h service hservice := by
    unfold Slot.close at hservice
    split at hservice
    · exact h service hservice
    · next before hbefore =>
      split at hservice
      · rcases hservice with hservice | hservice
        · exact h service (.inl hservice)
        · obtain rfl := Option.some.inj hservice
          exact hclose before (h before (.inr hbefore))
      · exact h service hservice

end Slot

namespace Manager

section

variable {P : Slot σ → Prop} {m : Manager σ}

theorem forall_slots_mapSlots {f : Slot σ → Slot σ} (hf : ∀ s, P s → P (f s))
    (hm : ∀ s ∈ m.slots, P s) : ∀ s ∈ (m.mapSlots f).slots, P s := by
  intro s hs
  obtain ⟨before, hbefore, rfl⟩ : ∃ before ∈ m.slots, f before = s := List.mem_map.mp hs
  exact hf before (hm before hbefore)

variable [Lifecycle σ]

theorem forall_slots_excluding (hP : Slot.Invariant P) (hm : ∀ s ∈ m.slots, P s)
    (p : Slot σ → Bool) : ∀ s ∈ (m.mapSlots fun s => if p s then s.exclude else s).slots, P s := by
  refine forall_slots_mapSlots (fun s hs => ?_) hm
  split
  · exact hP.exclude s hs
  · exact hs

theorem forall_slots_applySelection (hP : Slot.Invariant P) (hm : ∀ s ∈ m.slots, P s)
    (disabled enabled : List String) : ∀ s ∈ (m.applySelection disabled enabled).slots, P s :=
  forall_slots_excluding hP hm _

theorem forall_slots_startCritical (hP : Slot.Invariant P) (hm : ∀ s ∈ m.slots, P s)
    (config : Config) : ∀ s ∈ (m.startCritical config).2.slots, P s := by
  have hcritical : P (m.startCritical config).2.critical := by
    have hbefore := hm _ List.mem_cons_self
    cases hexcluded : m.critical.excluded with
    | true => rwa [startCritical_of_excluded hexcluded]
    | false =>
      cases hstart : (m.critical.start config).2 with
      | none => rwa [startCritical_of_none hexcluded hstart]
      | some outcome =>
        rw [startCritical_of_some hexcluded hstart]
        exact hP.start _ config hbefore
  intro s hs
  rcases List.mem_cons.mp hs with rfl | hs
  · exact hcritical
  · rw [optional_startCritical] at hs
    exact hm s (List.mem_cons_of_mem _ hs)

theorem forall_slots_start (hP : Slot.Invariant P) (hm : ∀ s ∈ m.slots, P s) (config : Config) :
    ∀ s ∈ (m.start config).2.slots, P s := by
  have hprepared : ∀ s ∈ (m.prepare config).slots, P s :=
    forall_slots_mapSlots hP.construct (forall_slots_applySelection hP hm _ _)
  have hcritical := forall_slots_startCritical hP hprepared config
  unfold start
  split
  · split
    · next heq => rwa [heq] at hcritical
    · next heq =>
      rw [heq] at hcritical
      intro s hs
      rcases List.mem_cons.mp hs with rfl | hs
      · exact hcritical _ List.mem_cons_self
      · obtain ⟨before, hbefore, rfl⟩ := List.mem_map.mp hs
        exact hP.start before config (hcritical before (List.mem_cons_of_mem _ hbefore))
  · exact hm

theorem forall_slots_perform (hP : Slot.Invariant P) (hm : ∀ s ∈ m.slots, P s) (op : Operation) :
    ∀ s ∈ (m.perform op).slots, P s := by
  cases hstart : op.isStart with
  | true =>
    cases op with
    | start config => exact forall_slots_start hP hm config
    | _ => cases hstart
  | false =>
    rcases perform_cases (m := m) (.inl hstart) with ⟨p, heq⟩ | ⟨disabled, heq⟩ | heq
    · rw [heq]
      exact forall_slots_excluding hP hm p
    · rw [heq]
      exact hm
    · rw [heq]
      rw [shutdown_eq]
      split
      · exact hm
      · exact forall_slots_mapSlots hP.close hm

/-- By induction on the run. -/
theorem forall_slots_run (hP : Slot.Invariant P) (hm : ∀ s ∈ m.slots, P s)
    (ops : List Operation) : ∀ s ∈ (m.run ops).slots, P s := by
  induction ops generalizing m with
  | nil => exact hm
  | cons op rest ih => exact ih (forall_slots_perform hP hm op)

end

/-! ## Coherent managers -/

section

variable [Provider σ] {m : Manager σ}

/-- The enabled services offer exactly what they have handlers for, each tool once, and no two of
them bring the same tool. -/
structure IsCoherent (m : Manager σ) : Prop where
  nodup : ∀ name s, m.registry.enabled.find? name = some s →
    ((Provider.definitions s).map (·.name)).Nodup
  contains_iff : ∀ name s, m.registry.enabled.find? name = some s → ∀ tool,
    (Provider.handlers s).contains tool = true ↔ ∃ d ∈ Provider.definitions s, d.name = tool
  name_eq : ∀ name other tool, m.Brings name tool → m.Brings other tool → name = other

theorem IsCoherent.defects_eq_nil (h : m.IsCoherent) : m.defects = [] := by
  refine List.eq_nil_iff_forall_not_mem.mpr fun defect hmem => ?_
  cases defect with
  | orphaned tool name =>
    obtain ⟨-, s, hs, hoffers, hnone | hrepeated⟩ := mem_defects_orphaned.mp hmem
    · rw [(h.contains_iff name s hs tool).mpr hoffers] at hnone
      cases hnone
    · have honce := List.nodup_iff_count_le_one.mp (h.nodup name s hs) tool
      omega
  | unadvertised tool name =>
    obtain ⟨s, hs, hcarries, hnone⟩ := mem_defects_unadvertised.mp hmem
    obtain ⟨d, hd, hname⟩ := (h.contains_iff name s hs tool).mp hcarries
    exact hnone d hd hname
  | duplicate tool name owner =>
    obtain ⟨-, hbrings, howner, hlt⟩ := mem_defects_duplicate.mp hmem
    have heq := h.name_eq owner name tool (name_supplier?_eq_some.mp howner).1 hbrings
    exact String.ne_of_lt hlt heq

/-- Every tool that an enabled service offers is entered, unless it is disabled. -/
theorem IsCoherent.find?_tools (h : m.IsCoherent) {name : String} {s : σ}
    (hs : m.registry.enabled.find? name = some s) {d : ToolDefinition}
    (hd : d ∈ Provider.definitions s) (hdisabled : m.disabled.contains d.name = false)
    (t : Table Handler) :
    ∃ handler, (Provider.handlers s).find? d.name = some handler ∧
      (m.registerTools t).2.tools.find? d.name = some ⟨d, handler⟩ := by
  have hcarries := (h.contains_iff name s hs d.name).mpr ⟨d, hd, rfl⟩
  obtain ⟨handler, hhandler⟩ := Option.isSome_iff_exists.mp hcarries
  have hfirst : (Provider.definitions s).find? (·.name == d.name) = some d :=
    find?_of_nodup_map (h.nodup name s hs) hd
  have hsupplier : m.supplier? d.name = some (name, ⟨d, handler⟩) := by
    refine supplier?_eq_some.mpr ⟨⟨s, hs, Offer.tool?_eq_some.mpr ⟨hfirst, hhandler⟩⟩, ?_⟩
    intro other s' hs' hbrings
    obtain ⟨hoffers, hcarries'⟩ := Offer.isSome_tool?.mp hbrings
    have heq : name = other := h.name_eq name other d.name ⟨s, hs, ⟨d, hd, rfl⟩, hcarries⟩
      ⟨s', hs', hoffers, hcarries'⟩
    exact heq ▸ String.le_refl name
  refine ⟨handler, hhandler, ?_⟩
  rw [find?_tools_registerTools, hdisabled, hsupplier]
  rfl

end

end Manager

/-! ## Builtin services -/

theorem Registry.of_find?_enabled [Provider σ] {r : Registry σ} {name : String} {s : σ}
    (h : r.enabled.find? name = some s) : s ∈ r.services ∧ Provider.name s = name := by
  rw [find?_enabled] at h
  obtain ⟨hmem, hcounts⟩ := List.mem_filter.mp (List.mem_of_getLast? h)
  exact ⟨hmem, of_decide_eq_true (Bool.and_eq_true_iff.mp hcounts).1⟩

theorem Service.service_of_mem_definitions {s : Service} {d : ToolDefinition}
    (h : d ∈ s.definitions) : d.service = s.name := by
  cases s with
  | endpoints e =>
    simp only [definitions, EndpointService.definitions] at h
    split at h
    · obtain ⟨_, -, rfl⟩ := List.mem_map.mp h
      rfl
    · cases h
  | utilities enabled =>
    simp only [definitions] at h
    split at h
    · have hall : ∀ d ∈ Utilities.definitions, d.service = Utilities.serviceName := by
        simp [Utilities.definitions]
      exact hall d h
    · cases h
  | scripted script enabled =>
    simp only [definitions] at h
    split at h
    · obtain ⟨_, -, rfl⟩ := List.mem_map.mp h
      rfl
    · cases h

namespace Builtin

/-- A service of the builtin catalog, in any state. -/
def IsBuiltin : Service → Prop
  | .endpoints e => endpoints? e.name = some e.endpoints
  | .utilities _ => True
  | .scripted _ _ => False

theorem isBuiltin_of_mem_catalog : ∀ e ∈ catalog.entries, IsBuiltin e.service := by
  simp only [catalog, Catalog.entries, List.forall_mem_cons]
  exact ⟨rfl, rfl, rfl, rfl, rfl, rfl, rfl, rfl, rfl, trivial, fun _ h => absurd h List.not_mem_nil⟩

theorem IsBuiltin.start {s : Service} (h : IsBuiltin s) (config : Config) :
    IsBuiltin (s.start config).2 := by
  cases s with
  | endpoints e =>
    obtain ⟨_, heq⟩ := Service.start_endpoints_snd e config
    rw [heq]
    exact h
  | utilities _ => trivial
  | scripted _ _ => cases h

theorem IsBuiltin.close {s : Service} (h : IsBuiltin s) : IsBuiltin s.close.2 := by
  cases s with
  | endpoints _ => exact h
  | utilities _ => trivial
  | scripted _ _ => cases h

theorem invariant_isBuiltin : Slot.Invariant (Slot.Holds IsBuiltin) :=
  Slot.invariant_holds (fun _ config h => h.start config) fun _ h => h.close

/-- Whatever is done with the builtin services, they stay what they are. -/
theorem isBuiltin_run {ops : List Operation} {s : Service}
    (h : s ∈ ((Manager.ofCatalog catalog).run ops).registry.services) : IsBuiltin s := by
  obtain ⟨slot, hslot, hservice⟩ := List.mem_filterMap.mp h
  have hcatalog : ∀ slot ∈ (Manager.ofCatalog catalog).slots, slot.Holds IsBuiltin := by
    intro slot hslot service hservice
    obtain ⟨e, he, rfl⟩ : ∃ e ∈ catalog.entries, Slot.ofEntry e = slot := List.mem_map.mp hslot
    rcases hservice with hservice | hservice
    · exact Option.some.inj hservice ▸ isBuiltin_of_mem_catalog e he
    · cases hservice
  exact Manager.forall_slots_run invariant_isBuiltin hcatalog ops slot hslot s (.inr hservice)

/-! ### Tools -/

/-- The tools of a builtin service. -/
def toolsOf (name : String) : List String :=
  match endpoints? name with
  | some endpoints => endpoints.map (·.tool)
  | none => Utilities.definitions.map (·.name)

theorem nodup_tools : (serviceNames.flatMap toolsOf).Nodup := by
  decide

/-- A tool is in the table of one service only. -/
theorem eq_of_mem_toolsOf {name other tool : String} (hname : name ∈ serviceNames)
    (hother : other ∈ serviceNames) (h : tool ∈ toolsOf name) (h' : tool ∈ toolsOf other) :
    name = other := by
  have hsymm : Std.Symm (Function.onFun List.Disjoint toolsOf) :=
    ⟨fun _ _ hdisjoint => List.disjoint_symm hdisjoint⟩
  by_contra hne
  exact (List.nodup_flatMap.mp nodup_tools).2.forall hname hother hne h h'

theorem mem_serviceNames {name : String} {endpoints : List Endpoint}
    (h : endpoints? name = some endpoints) : name ∈ serviceNames := by
  unfold endpoints? at h
  split at h
  case h_10 => cases h
  all_goals decide

theorem IsBuiltin.name_mem {s : Service} (h : IsBuiltin s) : s.name ∈ serviceNames := by
  cases s with
  | endpoints e => exact mem_serviceNames h
  | utilities _ => exact show Utilities.serviceName ∈ serviceNames by decide
  | scripted _ _ => cases h

theorem IsBuiltin.map_definitions {s : Service} (h : IsBuiltin s) :
    s.definitions.map (·.name) = if s.isEnabled then toolsOf s.name else [] := by
  cases s with
  | endpoints e =>
    have htools : toolsOf e.name = e.endpoints.map (·.tool) := by
      rw [toolsOf, show endpoints? e.name = some e.endpoints from h]
    simp only [Service.definitions, Service.isEnabled, Service.name, EndpointService.definitions,
      htools]
    split
    · rw [List.map_map]
      rfl
    · rfl
  | utilities enabled => cases enabled <;> rfl
  | scripted _ _ => cases h

theorem IsBuiltin.contains_handlers {s : Service} (h : IsBuiltin s) {tool : String} :
    s.handlers.contains tool = true ↔ ∃ d ∈ s.definitions, d.name = tool := by
  cases s with
  | endpoints e =>
    cases hconnection : e.connection? with
    | none =>
      simp [Service.handlers, Service.definitions, EndpointService.handlers,
        EndpointService.definitions, EndpointService.isEnabled, hconnection, NameMap.contains]
    | some connection =>
      simp [Service.handlers, Service.definitions, EndpointService.handlers,
        EndpointService.definitions, EndpointService.isEnabled, hconnection,
        NameMap.contains_ofList]
  | utilities enabled =>
    cases enabled with
    | false => simp [Service.handlers, Service.definitions, NameMap.contains]
    | true =>
      have hoffers : tool ∈ Utilities.definitions.map (·.name) ↔
          ∃ d ∈ Utilities.definitions, d.name = tool := List.mem_map
      exact NameMap.contains_ofList.trans hoffers
  | scripted _ _ => cases h

theorem IsBuiltin.nodup_definitions {s : Service} (h : IsBuiltin s) :
    (s.definitions.map (·.name)).Nodup := by
  rw [h.map_definitions]
  split
  · exact (List.nodup_flatMap.mp nodup_tools).1 s.name h.name_mem
  · exact List.nodup_nil

theorem IsBuiltin.mem_toolsOf {s : Service} (h : IsBuiltin s) {tool : String}
    (hoffers : ∃ d ∈ s.definitions, d.name = tool) : tool ∈ toolsOf s.name := by
  have htool : tool ∈ s.definitions.map (·.name) := List.mem_map.mpr hoffers
  rw [h.map_definitions] at htool
  split at htool
  · exact htool
  · cases htool

end Builtin

/-! ## Every run -/

namespace Manager

theorem isCoherent_run (ops : List Operation) :
    ((ofCatalog Builtin.catalog).run ops).IsCoherent := by
  have hbuiltin : ∀ {name : String} {s : Service},
      ((ofCatalog Builtin.catalog).run ops).registry.enabled.find? name = some s →
      Builtin.IsBuiltin s ∧ s.name = name := fun hs =>
    ⟨Builtin.isBuiltin_run (Registry.of_find?_enabled hs).1, (Registry.of_find?_enabled hs).2⟩
  refine ⟨fun _ _ hs => (hbuiltin hs).1.nodup_definitions,
    fun _ _ hs _ => (hbuiltin hs).1.contains_handlers, ?_⟩
  rintro name other tool ⟨s, hs, hoffers, -⟩ ⟨s', hs', hoffers', -⟩
  obtain ⟨hkind, rfl⟩ := hbuiltin hs
  obtain ⟨hkind', rfl⟩ := hbuiltin hs'
  exact Builtin.eq_of_mem_toolsOf hkind.name_mem hkind'.name_mem (hkind.mem_toolsOf hoffers)
    (hkind'.mem_toolsOf hoffers')

/-- Whatever is done with a manager of the builtin services, verifying reports nothing. Registering
counts no defect and enters every tool that an enabled service offers and that is not disabled, and
every tool in the table is defined by the service that its definition names, which is enabled, and
carried out by the handler of that service. -/
theorem builtin_registers_cleanly (ops : List Operation) :
    let m := (ofCatalog Builtin.catalog).run ops
    m.verify = (true, []) ∧
    ∀ t : Table Handler,
      let summary := (m.registerTools t).1
      let tools := (m.registerTools t).2.tools
      summary.orphaned = 0 ∧ summary.duplicates = 0 ∧ summary.unadvertised = 0 ∧
      (∀ name s, m.registry.enabled.find? name = some s → ∀ d ∈ Provider.definitions s,
        m.disabled.contains d.name = false →
        ∃ handler, (Provider.handlers s).find? d.name = some handler ∧
          tools.find? d.name = some ⟨d, handler⟩) ∧
      (∀ name tool, tools.find? name = some tool →
        m.disabled.contains name = false ∧ tool.definition.name = name ∧
        ∃ s, m.registry.enabled.find? tool.definition.service = some s ∧
          tool.definition ∈ Provider.definitions s ∧
          (Provider.handlers s).find? name = some tool.handler) := by
  intro m
  have hcoherent : m.IsCoherent := isCoherent_run ops
  have hverify : m.verify = (true, []) := by rw [verify, hcoherent.defects_eq_nil]; rfl
  refine ⟨hverify, fun t => ?_⟩
  obtain ⟨horphaned, hduplicates, hunadvertised⟩ := m.verify_eq_true_iff.mp hverify
  refine ⟨horphaned, hduplicates, hunadvertised,
    fun name s hs d hd hdisabled => hcoherent.find?_tools hs hd hdisabled t, ?_⟩
  intro name tool htool
  rw [find?_tools_registerTools] at htool
  split at htool
  · cases htool
  · next hdisabled =>
    obtain ⟨⟨service, tool⟩, hsupplier, rfl⟩ := Option.map_eq_some_iff.mp htool
    obtain ⟨⟨s, hs, hbrings⟩, -⟩ := supplier?_eq_some.mp hsupplier
    obtain ⟨hdefinition, hhandler⟩ := Offer.tool?_eq_some.mp hbrings
    have hmem := List.mem_of_find?_eq_some hdefinition
    have hservice : tool.definition.service = service :=
      (Service.service_of_mem_definitions hmem).trans (Registry.of_find?_enabled hs).2
    refine ⟨by simpa using hdisabled, by simpa using List.find?_some hdefinition, s, ?_, hmem,
      hhandler⟩
    rw [hservice, hs]

/-- The address of one backend enables the two services that share it, beside the utilities. -/
example :
    ((ofCatalog Builtin.catalog).run
      [.start { backends := NameMap.ofList [("kubernetes", .ofUrl "http://cluster/")] },
        .disable "helm_list_releases"]).enabledNames = ["helm", "kubernetes", "utilities"] := by
  decide +kernel

end Manager

end Switchboard
