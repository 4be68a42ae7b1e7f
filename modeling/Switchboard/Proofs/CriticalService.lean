import Switchboard.Proofs.Registration
import Switchboard.Proofs.Start
import Switchboard.Service.Basic

/-!
# The critical service decides

A start is a success exactly if the critical service is not left out, goes by the name of its entry
and starts. Where it is not, no other service is started, so no service is enabled, and none becomes
enabled later: a manager without an enabled service keeps that (`isIdle_run`) and enters no tool
into any table.

What services are like matters in one place only: a service whose start fails must not be enabled
by it. This holds for services as they are made (`Service.isNew`).
-/

namespace Switchboard

/-! ## New services -/

namespace Service

/-- Whether a service is as it is made: neither started nor closed. A script counts as new if its
start fails, where it fails, before the service is enabled. -/
def isNew : Service → Bool
  | .endpoints e => e.connected.isNone && !e.closed
  | .utilities enabled => !enabled
  | .scripted s enabled =>
    !enabled && s.lateStartError.isNone && s.breakdown != some .late && s.breakdown != some .wordless

theorem isEnabled_of_isNew {s : Service} (h : s.isNew = true) : s.isEnabled = false := by
  cases s with
  | endpoints e =>
    simp only [isNew, Bool.and_eq_true, Option.isNone_iff_eq_none] at h
    simp [isEnabled, EndpointService.isEnabled, EndpointService.connection?, h.1]
  | utilities enabled => simpa [isNew, isEnabled] using h
  | scripted script enabled =>
    simp only [isNew, Bool.and_eq_true, Bool.not_eq_true'] at h
    exact h.1.1.1

/-- A new service that does not start is not enabled afterwards. -/
theorem isEnabled_start_of_isNew {s : Service} (h : s.isNew = true) {config : Config}
    (hstart : (s.start config).1 ≠ .started) : (s.start config).2.isEnabled = false := by
  cases s with
  | endpoints e =>
    simp only [start] at hstart ⊢
    cases he : e.start config with
    | ok e' => simp [he] at hstart
    | error failure => exact isEnabled_of_isNew h
  | utilities enabled => exact absurd rfl hstart
  | scripted script enabled =>
    simp only [isNew, Bool.and_eq_true, Bool.not_eq_true', Option.isNone_iff_eq_none,
      bne_iff_ne] at h
    obtain ⟨⟨⟨hdisabled, hchain⟩, hlate⟩, hwordless⟩ := h
    simp only [start, startScript] at hstart ⊢
    split
    · exact hdisabled
    · exact hdisabled
    · contradiction
    · contradiction
    · simp_all

theorem isEnabled_close {s : Service} (h : s.isEnabled = false) : s.close.2.isEnabled = false := by
  cases s with
  | endpoints e =>
    simp [close, isEnabled, EndpointService.isEnabled, EndpointService.connection?,
      EndpointService.close]
  | utilities _ => exact h
  | scripted _ _ => exact h

end Service

/-! ## Managers without an enabled service -/

/-- Whether no service of a manager is enabled. -/
def Manager.IsIdle (m : Manager Service) : Prop :=
  ∀ s ∈ m.registry.services, s.isEnabled = false

namespace Manager

variable {m : Manager Service}

theorem isIdle_iff :
    m.IsIdle ↔ ∀ s ∈ m.slots, ∀ service, s.service = some service → service.isEnabled = false := by
  simp only [IsIdle, registry, List.mem_filterMap]
  constructor
  · exact fun h s hs service hservice => h service ⟨s, hs, hservice⟩
  · rintro h service ⟨s, hs, hservice⟩
    exact h s hs service hservice

theorem enabled_of_isIdle (h : m.IsIdle) : m.registry.enabled = NameMap.empty := by
  have hnone : m.registry.services.filter Provider.isEnabled = [] :=
    List.filter_eq_nil_iff.mpr fun s hs => by rw [show Provider.isEnabled s = false from h s hs]; simp
  rw [Registry.enabled, hnone]
  rfl

theorem tools_registerTools_of_isIdle (h : m.IsIdle) (t : Table Handler) :
    (m.registerTools t).2.tools = NameMap.empty := by
  have hplan : m.plan = registration m.disabled NameMap.empty := by
    rw [plan, enabled_of_isIdle h]
    rfl
  rw [registerTools, hplan]
  rfl

theorem isIdle_shutdown (h : m.IsIdle) : m.shutdown.2.IsIdle := by
  rw [shutdown_eq]
  split
  · exact h
  · rw [isIdle_iff] at h ⊢
    intro s hs service hservice
    have hslots : s ∈ m.slots.map fun s => s.close.1 := by simpa [mapSlots, slots] using hs
    obtain ⟨s₀, hs₀, rfl⟩ := List.mem_map.mp hslots
    have hbefore := h s₀ hs₀
    unfold Slot.close at hservice
    split at hservice
    · exact hbefore service hservice
    · next service₀ hservice₀ =>
      split at hservice
      · obtain rfl := Option.some.inj hservice
        exact Service.isEnabled_close (hbefore service₀ hservice₀)
      · exact hbefore service hservice

/-- From the start on, no service becomes enabled. -/
theorem isIdle_run (h : m.IsIdle) (hphase : m.phase ≠ .unstarted) (ops : List Operation) :
    (m.run ops).IsIdle := by
  obtain ⟨d, hrun⟩ := run_of_started hphase ops
  rw [hrun]
  split
  · exact isIdle_shutdown h
  · exact h

end Manager

/-! ## The decision -/

/-- The slot of a new service that was built, if at all, and not started is not enabled. -/
theorem Slot.isEnabled_built {out : String → Bool} {e : CatalogEntry Service}
    (h : e.service.isNew = true) {service : Service} (hs : (built out e).service = some service) :
    service.isEnabled = false := by
  rw [service_built] at hs
  split at hs
  · obtain rfl := Option.some.inj hs
    exact Service.isEnabled_of_isNew h
  · cases hs

namespace Manager

variable (c : Catalog Service) (out : String → Bool) (config : Config)

/-- Where the critical service does not start, its slot holds no enabled service. -/
theorem isEnabled_critical (hnew : c.critical.service.isNew = true)
    (h : ¬ c.CriticalStarts out config) {service : Service}
    (hs : ((Slot.built out c.critical).start config).1.service = some service) :
    service.isEnabled = false := by
  by_cases hkept : out c.critical.name = false ∧
      Provider.name c.critical.service = c.critical.name
  · rw [Slot.start_built_of_kept hkept.1 hkept.2] at hs
    obtain rfl := Option.some.inj hs
    exact Service.isEnabled_start_of_isNew hnew fun hstarted => h ⟨hkept.1, hkept.2, hstarted⟩
  · have hnone : (Slot.built out c.critical).service = none := by
      rw [Slot.service_built, if_neg hkept]
    rw [Slot.start_of_service_eq_none hnone, hnone] at hs
    cases hs

theorem isIdle_of_not_criticalStarts (hnew : ∀ e ∈ c.entries, e.service.isNew = true)
    (h : ¬ c.CriticalStarts out config) (ledger : Ledger) (shutDown : Bool) :
    IsIdle { built c out config ledger shutDown with
      critical := ((Slot.built out c.critical).start config).1
      phase := .failed } := by
  refine isIdle_iff.mpr fun s hs service hservice => ?_
  rcases List.mem_cons.mp hs with rfl | hs
  · exact isEnabled_critical c out config (hnew _ List.mem_cons_self) h hservice
  · obtain ⟨e, he, rfl⟩ := List.mem_map.mp hs
    exact Slot.isEnabled_built (hnew e (List.mem_cons_of_mem _ he)) hservice

/-- What a list of filters leaves out. -/
def leftOutBy (filters : List (List String × List String)) (name : String) : Bool :=
  filters.any fun f => isExcluded f.1 f.2 name

/-- Filters leave out what any of them leaves out, and do nothing else. -/
theorem run_filters_awaiting {σ : Type} [Lifecycle σ] (c : Catalog σ) (out : String → Bool)
    (d : DisabledTools) (shutDown : Bool) (filters : List (List String × List String)) :
    (awaiting c out d shutDown).run (filters.map fun f => .filter f.1 f.2) =
      awaiting c (fun name => out name || leftOutBy filters name) d shutDown := by
  induction filters generalizing out with
  | nil => simp [leftOutBy]
  | cons f rest ih =>
    have hfilter : (awaiting c out d shutDown).perform (.filter f.1 f.2) =
        awaiting c (fun name => out name || isExcluded f.1 f.2 name) d shutDown :=
      applySelection_awaiting c out d shutDown f.1 f.2
    rw [List.map_cons, run_cons, hfilter, ih]
    simp only [leftOutBy, List.any_cons, Bool.or_assoc]

theorem run_filters (filters : List (List String × List String)) :
    ∃ d, (ofCatalog c).run (filters.map fun f => .filter f.1 f.2) =
      awaiting c (leftOutBy filters) d false := by
  refine ⟨.empty, ?_⟩
  rw [ofCatalog_eq_awaiting, run_filters_awaiting]
  simp only [Bool.false_or]

/-- The critical service has to pass all filters and the selection of the configuration. -/
theorem criticalStarts_leftOutBy (filters : List (List String × List String)) :
    c.CriticalStarts (config.leavesOut (leftOutBy filters)) config ↔
      (∀ f ∈ filters ++ [(config.disabledServices, config.enabledServices)],
        isExcluded f.1 f.2 c.critical.name = false) ∧
      c.critical.service.name = c.critical.name ∧
      (c.critical.service.start config).1 = .started := by
  have hkept : config.leavesOut (leftOutBy filters) c.critical.name = false ↔
      ∀ f ∈ filters ++ [(config.disabledServices, config.enabledServices)],
        isExcluded f.1 f.2 c.critical.name = false := by
    simp [Config.leavesOut, leftOutBy, or_imp, forall_and]
  rw [← hkept]
  exact ⟨fun h => ⟨h.kept, h.name_eq, h.started⟩, fun h => ⟨h.1, h.2.1, h.2.2⟩⟩

/-- The first start of a manager is a success exactly if no filter leaves out the critical service,
the service goes by the name of its entry and it starts; the manager is ready then. Otherwise the
error names the critical entry and the manager has failed: no other service was started, the ledger
knows another entry only if its service was built and goes by a wrong name, no service is enabled,
and whatever is done afterwards, registering leaves no tool in a table. -/
theorem critical_service_decides (filters : List (List String × List String))
    (hnames : c.names.Nodup) (hnew : ∀ e ∈ c.entries, e.service.isNew = true) :
    let m := (ofCatalog c).run (filters.map fun f => .filter f.1 f.2)
    ((m.start config).1 = .ok () ↔
      (∀ f ∈ filters ++ [(config.disabledServices, config.enabledServices)],
        isExcluded f.1 f.2 c.critical.name = false) ∧
      c.critical.service.name = c.critical.name ∧
      (c.critical.service.start config).1 = .started) ∧
    ((m.start config).1 = .ok () → (m.start config).2.phase = .ready) ∧
    ((m.start config).1 ≠ .ok () →
      (∃ message, (m.start config).1 = .error (.criticalService c.critical.name message)) ∧
      (m.start config).2.phase = .failed ∧
      List.Forall₂
        (fun e s => s.name = e.name ∧ s.calls.started = 0 ∧
          ((m.start config).2.ledger.status? e.name ≠ none →
            s.calls.constructed ≠ 0 ∧ e.service.name ≠ e.name))
        c.optional (m.start config).2.optional ∧
      (∀ s ∈ (m.start config).2.registry.services, s.isEnabled = false) ∧
      ∀ (ops : List Operation) (t : Table Handler),
        (((m.start config).2.run ops).registerTools t).2.tools = .empty) := by
  intro m
  obtain ⟨d, hm⟩ := run_filters c filters
  rw [← criticalStarts_leftOutBy, show m = awaiting c (leftOutBy filters) d false from hm]
  generalize leftOutBy filters = out
  by_cases h : c.CriticalStarts (config.leavesOut out) config
  · obtain ⟨ledger, hstart⟩ := start_awaiting_ok c out d false config h
    rw [hstart]
    exact ⟨iff_of_true rfl h, fun _ => rfl, fun hne => absurd rfl hne⟩
  · obtain ⟨message, ledger, hstart, hledger⟩ := start_awaiting_error c out d false config h
    have hidle := isIdle_of_not_criticalStarts c _ config hnew h ledger false
    rw [hstart]
    refine ⟨iff_of_false (by simp) h, fun hok => absurd hok (by simp), fun _ => ?_⟩
    refine ⟨⟨message, rfl⟩, rfl, ?_, hidle, fun ops t => ?_⟩
    · refine List.forall₂_map_right_iff.mpr (List.forall₂_same.mpr fun e he => ?_)
      refine ⟨Slot.name_built _ e, by rw [Slot.calls_built], fun hstatus => ?_⟩
      have hne : e.name ≠ c.critical.name := fun heq =>
        (List.nodup_cons.mp hnames).1 (List.mem_map.mpr ⟨e, he, heq⟩)
      replace hstatus : (buildLedger c (config.leavesOut out)).status? e.name ≠ none := by
        rw [← hledger e.name hne]
        exact hstatus
      obtain ⟨hkept, hmisnamed⟩ :=
        misnamed_of_status?_buildLedger c _ hnames (List.mem_cons_of_mem _ he) hstatus
      exact ⟨by rw [Slot.calls_built, hkept]; simp, hmisnamed⟩
    · exact tools_registerTools_of_isIdle (isIdle_run hidle (by simp) ops) t

/-- A critical service that fails, beside one that would start and one that goes by a wrong name. -/
theorem refused_with_failing_critical_service :
    let core : Service := .scripted { name := "core", tools := ["t"], startError := some "x" } false
    let side : Service := .scripted { name := "side", tools := ["t"] } false
    let c : Catalog Service := ⟨⟨"core", core⟩, [⟨"side", side⟩, ⟨"other", side⟩]⟩
    let m := (ofCatalog c).run [.filter ["absent"] []]
    (m.start {}).2.phase = .failed ∧
      (∀ s ∈ (m.start {}).2.registry.services, s.isEnabled = false) ∧
      ∀ (ops : List Operation) (t : Table Handler),
        (((m.start {}).2.run ops).registerTools t).2.tools = .empty := by
  intro core side c m
  have h := critical_service_decides c {} [(["absent"], [])] (by decide) (by decide)
  have hrefused : (m.start {}).1 ≠ .ok () := fun hok => absurd (h.1.mp hok).2.2 (by decide)
  obtain ⟨-, hphase, -, hidle, hempty⟩ := h.2.2 hrefused
  exact ⟨hphase, hidle, hempty⟩

end Manager

end Switchboard
