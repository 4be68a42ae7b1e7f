import Switchboard.Proofs.Naming
import Switchboard.Proofs.Outcomes
import Switchboard.Proofs.Registration
import Switchboard.Service.Basic

/-!
# A service fails for itself alone

Two catalogs that differ in the service of one entry, which is not the critical one, make managers
that differ in the slot of that entry and in what the ledger says about it (`Manager.SameBut`).
Every operation keeps it at that, because slots are changed one by one, every line of the ledger is
about the slot that it is written for, and the critical service decides alone about the phase.

A slot keeps a service only under its own name, so the service of the entry is nowhere to be found
under another name (`SameBut.find?_enabled`), and a tool that it does not carry out comes from the
same service in both managers.
-/

namespace Switchboard

variable {σ : Type}

/-! ## Slots -/

namespace Slot

variable [Provider σ]

/-- Slots of one name, the same unless it is the name in question. -/
structure SameBut (k : String) (s s' : Slot σ) : Prop where
  name_eq : s'.name = s.name
  isNamed : s.IsNamed
  isNamed' : s'.IsNamed
  eq_of_ne : s.name ≠ k → s' = s

variable {k : String} {s s' : Slot σ}

theorem SameBut.map (h : SameBut k s s') {f : Slot σ → Slot σ} (hf : Keeps f) :
    SameBut k (f s) (f s') where
  name_eq := by rw [hf.name_eq, hf.name_eq, h.name_eq]
  isNamed := hf.isNamed s h.isNamed
  isNamed' := hf.isNamed s' h.isNamed'
  eq_of_ne hne := by rw [h.eq_of_ne (hf.name_eq s ▸ hne)]

/-- What slots of the name have nothing to do with is the same. -/
theorem SameBut.apply_eq (h : SameBut k s s') {β : Type} {f : Slot σ → β} {b : β}
    (hf : ∀ s : Slot σ, s.IsNamed → s.name = k → f s = b) : f s' = f s := by
  by_cases hk : s.name = k
  · rw [hf s h.isNamed hk, hf s' h.isNamed' (h.name_eq.trans hk)]
  · rw [h.eq_of_ne hk]

end Slot

/-! ## Managers -/

/-- Managers that differ in the slot of a name, which is not the critical one, and in what the
ledger says about the name. -/
structure Manager.SameBut [Provider σ] (k : String) (m m' : Manager σ) : Prop where
  nodup : (m.slots.map (·.name)).Nodup
  critical_ne : m.critical.name ≠ k
  slots : List.Forall₂ (Slot.SameBut k) m.slots m'.slots
  status?_eq : ∀ name, name ≠ k → m'.ledger.status? name = m.ledger.status? name
  disabled_eq : m'.disabled = m.disabled
  phase_eq : m'.phase = m.phase
  shutDown_eq : m'.shutDown = m.shutDown

namespace Manager.SameBut

section Provider

variable [Provider σ] {k : String} {m m' : Manager σ}

theorem critical_eq (h : SameBut k m m') : m'.critical = m.critical := by
  cases h.slots with
  | cons hcritical _ => exact hcritical.eq_of_ne h.critical_ne

/-- What can be read off all slots but the one of the name is the same. -/
theorem map_slots_eq (h : SameBut k m m') {β : Type} {f : Slot σ → β}
    (hf : ∀ s s', Slot.SameBut k s s' → f s' = f s) : m'.slots.map f = m.slots.map f := by
  have hslots := h.slots
  generalize m.slots = slots at hslots ⊢
  generalize m'.slots = slots' at hslots ⊢
  induction hslots with
  | nil => rfl
  | cons hfirst _ ih => rw [List.map_cons, List.map_cons, hf _ _ hfirst, ih]

theorem names_eq (h : SameBut k m m') : m'.slots.map (·.name) = m.slots.map (·.name) :=
  h.map_slots_eq fun _ _ hs => hs.name_eq

theorem withLedger (h : SameBut k m m') {ledger ledger' : Ledger}
    (hledger : ∀ name, name ≠ k → ledger'.status? name = ledger.status? name) :
    SameBut k { m with ledger := ledger } { m' with ledger := ledger' } :=
  { h with status?_eq := hledger }

theorem recordAll (h : SameBut k m m') (rs : List LedgerRecord) :
    SameBut k { m with ledger := m.ledger.recordAll rs }
      { m' with ledger := m'.ledger.recordAll rs } :=
  h.withLedger fun name hne => by
    rw [Ledger.status?_recordAll, Ledger.status?_recordAll, h.status?_eq name hne]

theorem withDisabled (h : SameBut k m m') (disabled : DisabledTools) :
    SameBut k { m with disabled := disabled } { m' with disabled := disabled } :=
  { h with disabled_eq := rfl }

theorem withPhase (h : SameBut k m m') (phase : Phase) :
    SameBut k { m with phase := phase } { m' with phase := phase } :=
  { h with phase_eq := rfl }

theorem mapCritical (h : SameBut k m m') {f : Slot σ → Slot σ} (hf : Slot.Keeps f) :
    SameBut k { m with critical := f m.critical } { m' with critical := f m'.critical } :=
  { h with
    nodup := by
      have hnodup := h.nodup
      simpa [Manager.slots, hf.name_eq] using hnodup
    critical_ne := by
      rw [hf.name_eq]
      exact h.critical_ne
    slots := by
      cases h.slots with
      | cons hcritical hoptional => exact .cons (hcritical.map hf) hoptional }

theorem mapOptional (h : SameBut k m m') {f : Slot σ → Slot σ} (hf : Slot.Keeps f) :
    SameBut k { m with optional := m.optional.map f } { m' with optional := m'.optional.map f } :=
  { h with
    nodup := by
      have hnodup := h.nodup
      simpa [Manager.slots, Function.comp_def, hf.name_eq] using hnodup
    slots := by
      cases h.slots with
      | cons hcritical hoptional =>
        refine .cons hcritical ?_
        exact List.forall₂_map_left_iff.mpr
          (List.forall₂_map_right_iff.mpr (hoptional.imp fun _ _ hs => hs.map hf)) }

theorem mapSlots (h : SameBut k m m') {f : Slot σ → Slot σ} (hf : Slot.Keeps f) :
    SameBut k (m.mapSlots f) (m'.mapSlots f) :=
  (h.mapCritical hf).mapOptional hf

/-- Lines that are written for every slot about its own name. -/
theorem status?_recordAll_flatMap (h : SameBut k m m') {f : Slot σ → List LedgerRecord}
    (hf : ∀ s, ∀ r ∈ f s, r.service = s.name) (name : String) (hne : name ≠ k) :
    (m'.ledger.recordAll (m'.slots.flatMap f)).status? name =
      (m.ledger.recordAll (m.slots.flatMap f)).status? name := by
  have hnone : ∀ s : Slot σ, s.IsNamed → s.name = k → (f s).filter (·.service = name) = [] := by
    intro s _ hs
    refine List.filter_eq_nil_iff.mpr fun r hr => ?_
    rw [hf s r hr, hs]
    simpa using hne.symm
  have hlines : m'.slots.map (fun s => (f s).filter (·.service = name)) =
      m.slots.map (fun s => (f s).filter (·.service = name)) :=
    h.map_slots_eq fun _ _ hs => hs.apply_eq hnone
  rw [Ledger.status?_recordAll, Ledger.status?_recordAll, List.filter_flatMap, List.filter_flatMap,
    List.flatMap_def, List.flatMap_def, hlines, h.status?_eq name hne]

theorem applySelection (h : SameBut k m m') (disabled enabled : List String) :
    SameBut k (m.applySelection disabled enabled) (m'.applySelection disabled enabled) := by
  unfold Manager.applySelection
  rw [h.names_eq]
  exact h.mapSlots (Slot.keeps_exclude _)

end Provider

/-! ## Operations -/

variable [Lifecycle σ] {k : String} {m m' : Manager σ}

theorem construct (h : SameBut k m m') : SameBut k m.construct m'.construct := by
  refine (h.mapSlots Slot.keeps_construct).withLedger (h.status?_recordAll_flatMap fun s r hr => ?_)
  unfold misnamedRecords at hr
  split at hr
  · rcases List.mem_cons.mp hr with rfl | hr
    · rfl
    · rw [List.mem_singleton.mp hr]
  · cases hr

theorem prepare (h : SameBut k m m') (config : Config) :
    SameBut k (m.prepare config) (m'.prepare config) :=
  ((h.withDisabled _).applySelection _ _).construct

/-- The critical service is the same, and so is what comes of its start. -/
theorem startCritical (h : SameBut k m m') (config : Config) :
    (m'.startCritical config).1 = (m.startCritical config).1 ∧
      SameBut k (m.startCritical config).2 (m'.startCritical config).2 := by
  have hname : m'.critical.name = m.critical.name := by rw [h.critical_eq]
  cases hexcluded : m.critical.excluded with
  | true =>
    have hexcluded' : m'.critical.excluded = true := by rw [h.critical_eq, hexcluded]
    rw [startCritical_of_excluded hexcluded, startCritical_of_excluded hexcluded', hname]
    exact ⟨rfl, h.recordAll _⟩
  | false =>
    have hexcluded' : m'.critical.excluded = false := by rw [h.critical_eq, hexcluded]
    cases hstart : (m.critical.start config).2 with
    | none =>
      have hstart' : (m'.critical.start config).2 = none := by rw [h.critical_eq, hstart]
      rw [startCritical_of_none hexcluded hstart, startCritical_of_none hexcluded' hstart', hname,
        Ledger.error?, Ledger.error?, h.status?_eq _ h.critical_ne]
      exact ⟨rfl, h⟩
    | some outcome =>
      have hstart' : (m'.critical.start config).2 = some outcome := by rw [h.critical_eq, hstart]
      rw [startCritical_of_some hexcluded hstart, startCritical_of_some hexcluded' hstart', hname]
      exact ⟨rfl, (h.mapCritical (Slot.keeps_start config)).recordAll _⟩

theorem mem_optional (h : SameBut k m m') {s : Slot σ} (hs : s ∈ m.optional) (hne : s.name ≠ k) :
    s ∈ m'.optional := by
  cases h.slots with
  | cons _ hoptional =>
    obtain ⟨s', hs', hsame⟩ := exists_mem_of_forall₂ hoptional hs
    rwa [hsame.eq_of_ne hne] at hs'

theorem startOptional (h : SameBut k m m') (config : Config) :
    SameBut k (m.startOptional config) (m'.startOptional config) := by
  have hnames : m'.optional.map (·.name) = m.optional.map (·.name) := (List.cons.inj h.names_eq).2
  have hnodup : (m.optional.map (·.name)).Nodup := (List.nodup_cons.mp h.nodup).2
  have hnodup' : (m'.optional.map (·.name)).Nodup := hnames ▸ hnodup
  refine (h.mapOptional (Slot.keeps_start config)).withLedger fun name hne => ?_
  change (m'.startOptional config).ledger.status? name =
    (m.startOptional config).ledger.status? name
  by_cases hname : name ∈ m.optional.map (·.name)
  · obtain ⟨s, hs, rfl⟩ := List.mem_map.mp hname
    rw [status?_startOptional_of_mem hnodup' (h.mem_optional hs hne),
      status?_startOptional_of_mem hnodup hs, h.status?_eq _ hne]
  · rw [status?_startOptional_of_not_mem (hnames ▸ hname), status?_startOptional_of_not_mem hname,
      h.status?_eq _ hne]

theorem start (h : SameBut k m m') (config : Config) :
    (m'.start config).1 = (m.start config).1 ∧
      SameBut k (m.start config).2 (m'.start config).2 := by
  obtain ⟨hresult, hcritical⟩ := (h.prepare config).startCritical config
  unfold Manager.start
  rw [h.phase_eq, h.critical_eq]
  by_cases hphase : m.phase = .unstarted
  · rw [if_pos hphase, if_pos hphase]
    generalize (m.prepare config).startCritical config = r at hresult hcritical ⊢
    generalize (m'.prepare config).startCritical config = r' at hresult hcritical ⊢
    obtain ⟨reason, m₁⟩ := r
    obtain ⟨reason', m₁'⟩ := r'
    obtain rfl : reason' = reason := hresult
    cases reason' with
    | some message => exact ⟨rfl, hcritical.withPhase _⟩
    | none => exact ⟨rfl, (hcritical.startOptional config).withPhase _⟩
  · rw [if_neg hphase, if_neg hphase]
    exact ⟨rfl, h⟩

theorem shutdown (h : SameBut k m m') : SameBut k m.shutdown.2 m'.shutdown.2 := by
  rw [shutdown_eq, shutdown_eq, h.shutDown_eq]
  split
  · exact h
  · exact { h.mapSlots Slot.keeps_close with shutDown_eq := rfl }

theorem perform (h : SameBut k m m') (op : Operation) :
    SameBut k (m.perform op) (m'.perform op) := by
  cases op with
  | filter disabled enabled =>
    simp only [Manager.perform, filterServices, h.phase_eq]
    split
    · exact h.applySelection disabled enabled
    · exact h
  | start config => exact (h.start config).2
  | disable tool =>
    simp only [Manager.perform, disableTool, h.disabled_eq]
    exact h.withDisabled _
  | enable tool =>
    simp only [Manager.perform, enableTool, h.disabled_eq]
    exact h.withDisabled _
  | replaceDisabled tools => exact h.withDisabled _
  | register => exact h
  | verify => exact h
  | shutdown => exact h.shutdown

theorem run (h : SameBut k m m') (ops : List Operation) : SameBut k (m.run ops) (m'.run ops) := by
  induction ops generalizing m m' with
  | nil => exact h
  | cons op rest ih => exact ih (h.perform op)

end Manager.SameBut

/-! ## Tools -/

namespace Manager

variable [Provider σ] {k : String} {m m' : Manager σ}

/-- Whether the service in a slot of a name carries out a tool. -/
def carriesOut (m : Manager σ) (name tool : String) : Bool :=
  m.slots.any fun s => s.name == name &&
    s.service.any fun service => (Provider.handlers service).contains tool

namespace SameBut

/-- Under another name the same service is enabled, or none. -/
theorem find?_enabled (h : SameBut k m m') {name : String} (hne : name ≠ k) :
    m'.registry.enabled.find? name = m.registry.enabled.find? name := by
  let counts (service : σ) : Bool :=
    decide (Provider.name service = name) && Provider.isEnabled service
  have hnone : ∀ s : Slot σ, s.IsNamed → s.name = k → s.service.filter counts = none := by
    intro s hnamed hk
    refine Option.filter_eq_none_iff.mpr fun service hservice => ?_
    simp [counts, hnamed service hservice, hk, hne.symm]
  have hservices : m'.slots.map (·.service.filter counts) =
      m.slots.map (·.service.filter counts) :=
    h.map_slots_eq fun _ _ hs => hs.apply_eq hnone
  have hlists := congrArg (List.filterMap id) hservices
  rw [List.filterMap_map, List.filterMap_map] at hlists
  rw [Registry.find?_enabled, Registry.find?_enabled, registry, registry, List.filter_filterMap,
    List.filter_filterMap]
  exact congrArg List.getLast? hlists

theorem isNamed (h : SameBut k m m') : ∀ s ∈ m.slots, s.IsNamed :=
  ((List.forall₂_and_left m.slots m'.slots).mp (h.slots.imp fun _ _ hs => ⟨hs.isNamed, hs⟩)).1

theorem isNamed' (h : SameBut k m m') : ∀ s ∈ m'.slots, s.IsNamed :=
  ((List.forall₂_and_left m'.slots m.slots).mp
    (h.slots.flip.imp fun _ _ hs => ⟨hs.isNamed', hs⟩)).1

end SameBut

/-- What does not carry out a tool is not found among those that bring it. -/
theorem ne_of_carriesOut_eq_false (hnamed : ∀ s ∈ m.slots, s.IsNamed) {tool : String}
    (hk : m.carriesOut k tool = false) {name : String} {service : σ}
    (hfind : m.registry.enabled.find? name = some service)
    (htool : ((Offer.of service).tool? tool).isSome = true) : name ≠ k := by
  rintro rfl
  obtain ⟨-, s, hs, hname, hservice⟩ := exists_slot_of_find?_enabled hnamed hfind
  have hhandler : (Provider.handlers service).contains tool = true :=
    (Offer.isSome_tool?.mp htool).2
  have hcarries : m.carriesOut name tool = true :=
    List.any_eq_true.mpr ⟨s, hs, by simp [hname, hservice, hhandler]⟩
  rw [hk] at hcarries
  cases hcarries

namespace SameBut

/-- Where the service of the name has no part in a tool, the tool has the same supplier. -/
theorem supplier?_eq_some (h : SameBut k m m') {tool : String} (hk : m.carriesOut k tool = false)
    (hk' : m'.carriesOut k tool = false) (found : String × Tool Handler) :
    m'.supplier? tool = some found ↔ m.supplier? tool = some found := by
  have hsame : ∀ name service, ((Offer.of service).tool? tool).isSome = true →
      (m'.registry.enabled.find? name = some service ↔
        m.registry.enabled.find? name = some service) := by
    intro name service htool
    by_cases hname : name = k
    · subst hname
      exact ⟨fun hfind => absurd rfl (ne_of_carriesOut_eq_false h.isNamed' hk' hfind htool),
        fun hfind => absurd rfl (ne_of_carriesOut_eq_false h.isNamed hk hfind htool)⟩
    · rw [h.find?_enabled hname]
  obtain ⟨service, t⟩ := found
  rw [Manager.supplier?_eq_some, Manager.supplier?_eq_some]
  refine and_congr (exists_congr fun s : σ => and_congr_left fun htool => ?_)
    (forall₂_congr fun other s => ⟨fun hleast hfind htool => ?_, fun hleast hfind htool => ?_⟩)
  · exact hsame service s (by rw [htool]; rfl)
  · exact hleast ((hsame other s htool).mpr hfind) htool
  · exact hleast ((hsame other s htool).mp hfind) htool

/-- Where the service of the name has no part in a tool, the tool is entered for the same service,
or not at all. -/
theorem find?_owners_eq (h : SameBut k m m') {tool : String} (hk : m.carriesOut k tool = false)
    (hk' : m'.carriesOut k tool = false) :
    m'.plan.owners.find? tool = m.plan.owners.find? tool ∧
      ∀ t t' : Table Handler,
        (m'.registerTools t').2.tools.find? tool = (m.registerTools t).2.tools.find? tool := by
  have hsupplier : m'.supplier? tool = m.supplier? tool :=
    Option.ext (h.supplier?_eq_some hk hk')
  constructor
  · have howner := (holds_registration m.disabled (m.registry.enabled.map Offer.of) tool).1
    have howner' := (holds_registration m'.disabled (m'.registry.enabled.map Offer.of) tool).1
    rw [plan, plan, howner, howner', h.disabled_eq]
    exact congrArg (fun s => (if m.disabled.contains tool then none else s).map _) hsupplier
  · intro t t'
    rw [find?_tools_registerTools, find?_tools_registerTools, h.disabled_eq, hsupplier]

/-- All lines of the report but that about the name are the same. -/
theorem report_eq (h : SameBut k m m') :
    List.Forall₂ (fun r r' => r'.name = r.name ∧ (r.name ≠ k → r' = r)) m.report m'.report := by
  have hline : ∀ critical s s', Slot.SameBut k s s' →
      (m'.reportOf critical s').name = (m.reportOf critical s).name ∧
        (s.name ≠ k → m'.reportOf critical s' = m.reportOf critical s) := by
    intro critical s s' hs
    refine ⟨hs.name_eq, fun hne => ?_⟩
    rw [hs.eq_of_ne hne, reportOf, reportOf, h.status?_eq s.name hne]
  cases h.slots with
  | cons hcritical hoptional =>
    refine .cons (hline true _ _ hcritical) ?_
    exact List.forall₂_map_left_iff.mpr
      (List.forall₂_map_right_iff.mpr (hoptional.imp fun _ _ hs => hline false _ _ hs))

end SameBut

end Manager

/-! ## Catalogs -/

/-- Catalogs that differ in the service of an entry, which is not the critical one. -/
structure Catalog.SameBut (k : String) (c c' : Catalog σ) : Prop where
  critical_eq : c'.critical = c.critical
  critical_ne : c.critical.name ≠ k
  optional : List.Forall₂ (fun e e' => e'.name = e.name ∧ (e.name ≠ k → e' = e))
    c.optional c'.optional

namespace Manager

theorem sameBut_ofCatalog [Provider σ] {k : String} {c c' : Catalog σ} (h : c.SameBut k c')
    (hnames : c.names.Nodup) : SameBut k (ofCatalog c) (ofCatalog c') := by
  have hnamed : ∀ e : CatalogEntry σ, (Slot.ofEntry e).IsNamed := fun e =>
    Slot.isNamed_of_service_eq_none rfl
  have hslot : ∀ e e' : CatalogEntry σ, e'.name = e.name ∧ (e.name ≠ k → e' = e) →
      Slot.SameBut k (.ofEntry e) (.ofEntry e') := fun e e' he =>
    ⟨he.1, hnamed e, hnamed e', fun hne => congrArg _ (he.2 hne)⟩
  exact
    { nodup := by
        simpa [slots, ofCatalog, Slot.ofEntry, Function.comp_def, Catalog.names, Catalog.entries]
          using hnames
      critical_ne := h.critical_ne
      slots := by
        refine .cons (hslot _ _ ⟨congrArg _ h.critical_eq, fun _ => h.critical_eq⟩) ?_
        exact List.forall₂_map_left_iff.mpr
          (List.forall₂_map_right_iff.mpr (h.optional.imp hslot))
      status?_eq := fun _ _ => rfl
      disabled_eq := rfl
      phase_eq := rfl
      shutDown_eq := rfl }

/-- Two catalogs that differ in the service of one entry, which is not the critical one, cannot be
told apart by anything but that entry, whatever is done with their managers: every start comes to
the same and leads to the same phase; every other entry has the same line in the ledger and in the
report and was built, started and closed as often; and every tool that the service of the entry does
not carry out in either is entered for the same service, or not at all. -/
theorem one_entry_fails_alone [Lifecycle σ] {k : String} {c c' : Catalog σ} (h : c.SameBut k c')
    (hnames : c.names.Nodup) (ops : List Operation) :
    let m := (ofCatalog c).run ops
    let m' := (ofCatalog c').run ops
    (∀ config, (m'.start config).1 = (m.start config).1) ∧
      m'.phase = m.phase ∧
      (∀ name, name ≠ k → m'.ledger.status? name = m.ledger.status? name) ∧
      List.Forall₂ (fun r r' => r'.name = r.name ∧ (r.name ≠ k → r' = r)) m.report m'.report ∧
      List.Forall₂ (fun s s' => s'.name = s.name ∧ (s.name ≠ k → s'.calls = s.calls))
        m.slots m'.slots ∧
      ∀ tool, m.carriesOut k tool = false → m'.carriesOut k tool = false →
        m'.plan.owners.find? tool = m.plan.owners.find? tool ∧
          ∀ t t' : Table Handler,
            (m'.registerTools t').2.tools.find? tool = (m.registerTools t).2.tools.find? tool := by
  intro m m'
  have hm : SameBut k m m' := (sameBut_ofCatalog h hnames).run ops
  refine ⟨fun config => (hm.start config).1, hm.phase_eq, hm.status?_eq, hm.report_eq, ?_,
    fun tool hk hk' => hm.find?_owners_eq hk hk'⟩
  exact hm.slots.imp fun s s' hs => ⟨hs.name_eq, fun hne => by rw [hs.eq_of_ne hne]⟩

/-- One service starts, or it goes by the name of the critical one: a tool of another service stays
as it is. -/
theorem tool_beside_misnamed_service :
    let catalog (side : Service) : Catalog Service :=
      ⟨⟨"core", .scripted { name := "core" } false⟩,
        [⟨"side", side⟩, ⟨"other", .scripted { name := "other", tools := ["t"] } false⟩]⟩
    let ops : List Operation := [.filter ["absent"] [], .start {}, .register]
    let m := (ofCatalog (catalog (.scripted { name := "side", tools := ["u"] } false))).run ops
    let m' := (ofCatalog (catalog (.scripted { name := "core", tools := ["t"] } false))).run ops
    m'.phase = m.phase ∧ m'.ledger.status? "other" = m.ledger.status? "other" ∧
      ∀ t t' : Table Handler,
        (m'.registerTools t').2.tools.find? "t" = (m.registerTools t).2.tools.find? "t" := by
  intro catalog ops m m'
  have hsame : Catalog.SameBut "side"
      (catalog (.scripted { name := "side", tools := ["u"] } false))
      (catalog (.scripted { name := "core", tools := ["t"] } false)) :=
    ⟨rfl, by decide, .cons ⟨rfl, fun hne => absurd rfl hne⟩ (.cons ⟨rfl, fun _ => rfl⟩ .nil)⟩
  obtain ⟨-, hphase, hstatus, -, -, htools⟩ := one_entry_fails_alone hsame (by decide) ops
  exact ⟨hphase, hstatus "other" (by decide), (htools "t" (by decide) (by decide)).2⟩

end Manager

end Switchboard
