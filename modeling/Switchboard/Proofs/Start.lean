import Switchboard.Proofs.Lists
import Switchboard.Proofs.Run

/-!
# What a start makes of a catalog

The start of a manager leads from `Manager.awaiting` to one of two states. Which one it is depends
on the critical entry alone (`Catalog.CriticalStarts`): if its service starts, the services of all
entries that are left are started (`start_awaiting_ok`); otherwise they are built and no more
(`start_awaiting_error`). Of the ledger it is enough to know what it says about other names than
that of the critical entry.
-/

namespace Switchboard

/-! ## Lines of the ledger -/

theorem Ledger.status?_recordAll_of_forall_ne {rs : List LedgerRecord} {name : String}
    (h : ∀ r ∈ rs, r.service ≠ name) (l : Ledger) :
    (l.recordAll rs).status? name = l.status? name := by
  induction rs generalizing l with
  | nil => rfl
  | cons r rest ih =>
    have hrest := ih (fun r' hr' => h r' (List.mem_cons_of_mem _ hr')) (l.record r)
    rw [Ledger.status?_record, if_neg (h r List.mem_cons_self)] at hrest
    exact hrest

/-- Only a start that succeeded leaves no error. -/
theorem StartOutcome.error_status_eq_none {outcome : StartOutcome} :
    outcome.status.error = none ↔ outcome = .started := by
  cases outcome <;> simp [status, ServiceStatus.success, ServiceStatus.failure]

variable {σ : Type}

/-! ## Building -/

namespace Slot

variable [Provider σ] (out : String → Bool) (e : CatalogEntry σ)

/-- The slot of an entry once everything that is left is built. -/
def built : Slot σ := (awaiting out e).construct.1

/-- A service is kept if it is not left out and goes by the name of its entry. -/
theorem built_eq : built out e =
    { name := e.name
      excluded := out e.name
      blueprint := none
      service := if out e.name = false ∧ Provider.name e.service = e.name then some e.service
        else none
      calls := { constructed := if out e.name then 0 else 1 } } := by
  cases hout : out e.name <;>
    by_cases hname : Provider.name e.service = e.name <;>
    simp [built, construct, awaiting, hout, hname]

@[simp] theorem name_built : (built out e).name = e.name := by rw [built_eq]

@[simp] theorem excluded_built : (built out e).excluded = out e.name := by rw [built_eq]

@[simp] theorem calls_built :
    (built out e).calls = { constructed := if out e.name then 0 else 1 } := by rw [built_eq]

theorem service_built : (built out e).service =
    if out e.name = false ∧ Provider.name e.service = e.name then some e.service else none := by
  rw [built_eq]

variable {out e} in
theorem service_built_of_leftOut (h : out e.name = true) : (built out e).service = none := by
  rw [service_built, if_neg (by simp [h])]

variable {out e} in
theorem service_built_of_misnamed (h : Provider.name e.service ≠ e.name) :
    (built out e).service = none := by
  rw [service_built, if_neg fun hkept => h hkept.2]

/-- Lines of the ledger about the building of an entry. -/
def buildRecords : List LedgerRecord :=
  Manager.misnamedRecords e.name (awaiting out e).construct.2

/-- Building says nothing about an entry unless its service is built and goes by another name. -/
theorem of_mem_buildRecords {r : LedgerRecord} (h : r ∈ buildRecords out e) :
    r.service = e.name ∧ out e.name = false ∧ Provider.name e.service ≠ e.name := by
  cases hout : out e.name with
  | true => simp [buildRecords, construct, awaiting, hout, Manager.misnamedRecords] at h
  | false =>
    by_cases hname : Provider.name e.service = e.name
    · simp [buildRecords, construct, awaiting, hout, hname, Manager.misnamedRecords] at h
    · simp only [buildRecords, construct, awaiting, hout, hname, Manager.misnamedRecords,
        Bool.false_eq_true, if_false, List.mem_cons, List.not_mem_nil, or_false] at h
      rcases h with rfl | rfl <;> exact ⟨rfl, rfl, hname⟩

end Slot

/-! ## Starting -/

variable [Lifecycle σ]

namespace Slot

theorem start_of_service_eq_none {s : Slot σ} (h : s.service = none) (config : Config) :
    s.start config = (s, none) := by
  simp [start, h]

theorem service_eq_none_of_start {s : Slot σ} {config : Config}
    (h : (s.start config).2 = none) : s.service = none := by
  cases hs : s.service with
  | none => rfl
  | some service => simp [start, hs] at h

theorem start_built_of_kept {out : String → Bool} {e : CatalogEntry σ} (hout : out e.name = false)
    (hname : Provider.name e.service = e.name) (config : Config) :
    (built out e).start config =
      (⟨e.name, false, none, some (Lifecycle.start e.service config).2,
        { constructed := 1, started := 1 }⟩, some (Lifecycle.start e.service config).1) := by
  simp [start, built_eq, hout, hname]

/-- A start has an outcome only if the service was built and kept. -/
theorem outcome_of_start_built {out : String → Bool} {e : CatalogEntry σ} {config : Config}
    {outcome : StartOutcome}
    (h : ((built out e).start config).2 = some outcome) :
    out e.name = false ∧ Provider.name e.service = e.name ∧
      outcome = (Lifecycle.start e.service config).1 := by
  by_cases hkept : out e.name = false ∧ Provider.name e.service = e.name
  · obtain ⟨hout, hname⟩ := hkept
    rw [start_built_of_kept hout hname] at h
    exact ⟨hout, hname, (Option.some.inj h).symm⟩
  · rw [start_of_service_eq_none (by rw [service_built, if_neg hkept])] at h
    cases h

end Slot

/-- Whether the critical service can be used: it is not left out, goes by the name of its entry and
starts. -/
structure Catalog.CriticalStarts (c : Catalog σ) (out : String → Bool) (config : Config) : Prop where
  kept : out c.critical.name = false
  name_eq : Provider.name c.critical.service = c.critical.name
  started : (Lifecycle.start c.critical.service config).1 = .started

/-- Names that are left out when a start adds its own selection. -/
def Config.leavesOut (config : Config) (out : String → Bool) (name : String) : Bool :=
  out name || isExcluded config.disabledServices config.enabledServices name

/-- Names that are left out when a start follows other operations. -/
def leftOut (before : List Operation) (config : Config) : String → Bool :=
  config.leavesOut fun name => before.any (·.excludes name)

namespace Manager

/-- A manager that has built its services, with the phase and the ledger left open. -/
def built (c : Catalog σ) (out : String → Bool) (config : Config) (ledger : Ledger)
    (shutDown : Bool) : Manager σ :=
  { critical := .built out c.critical
    optional := c.optional.map (.built out)
    ledger := ledger
    disabled := .ofNames config.disabledTools
    phase := .unstarted
    shutDown := shutDown }

/-- The ledger once everything that is left is built. -/
def buildLedger (c : Catalog σ) (out : String → Bool) : Ledger :=
  Ledger.empty.recordAll (c.entries.flatMap (Slot.buildRecords out))

variable (c : Catalog σ) (out : String → Bool) (d : DisabledTools) (shutDown : Bool)
  (config : Config)

/-- After building, the ledger knows an entry only if its service was built and goes by another
name. -/
theorem misnamed_of_status?_buildLedger (hnodup : c.names.Nodup) {e : CatalogEntry σ}
    (he : e ∈ c.entries) (hstatus : (buildLedger c out).status? e.name ≠ none) :
    out e.name = false ∧ Provider.name e.service ≠ e.name := by
  by_contra hbuilt
  refine hstatus (Ledger.status?_recordAll_of_forall_ne (fun r hr hservice => ?_) .empty)
  obtain ⟨e', he', hr⟩ := List.mem_flatMap.mp hr
  obtain ⟨hr, hmisnamed⟩ := Slot.of_mem_buildRecords out e' hr
  obtain rfl : e' = e :=
    List.inj_on_of_nodup_map hnodup he' he (hr.symm.trans hservice)
  exact hbuilt hmisnamed

theorem prepare_awaiting :
    (awaiting c out d shutDown).prepare config =
      built c (config.leavesOut out) config (buildLedger c (config.leavesOut out)) shutDown := by
  have hselected : ({ awaiting c out d shutDown with
        disabled := .ofNames config.disabledTools } : Manager σ).applySelection
        config.disabledServices config.enabledServices =
      awaiting c (config.leavesOut out) (.ofNames config.disabledTools) shutDown :=
    applySelection_awaiting c out (.ofNames config.disabledTools) shutDown _ _
  rw [prepare, hselected]
  simp [construct, awaiting, built, buildLedger, mapSlots, slots, Slot.built, Slot.buildRecords,
    Catalog.entries, List.flatMap_map, Slot.awaiting]
  rfl

/-- Starting the critical service changes its slot and what the ledger says about its name. -/
theorem startCritical_built (ledger : Ledger) :
    ∃ ledger', ((built c out config ledger shutDown).startCritical config).2 =
        { built c out config ledger' shutDown with
          critical := ((Slot.built out c.critical).start config).1 } ∧
      ∀ name, name ≠ c.critical.name → ledger'.status? name = ledger.status? name := by
  have hname : (built c out config ledger shutDown).critical.name = c.critical.name :=
    Slot.name_built out c.critical
  have hother : ∀ (rs : List LedgerRecord), (∀ r ∈ rs, r.service = c.critical.name) →
      ∀ name, name ≠ c.critical.name →
        (ledger.recordAll rs).status? name = ledger.status? name := fun rs hrs name hne =>
    Ledger.status?_recordAll_of_forall_ne (fun r hr heq => hne ((hrs r hr ▸ heq).symm)) ledger
  rw [startCritical, hname]
  split
  · next hout =>
    rw [show (built c out config ledger shutDown).critical.excluded = out c.critical.name from
      Slot.excluded_built out c.critical] at hout
    rw [Slot.start_of_service_eq_none (Slot.service_built_of_leftOut hout)]
    exact ⟨_, rfl, hother [_] (by simp)⟩
  · split
    · next hstart =>
      have hnone : (Slot.built out c.critical).service = none :=
        Slot.service_eq_none_of_start (congrArg Prod.snd hstart)
      rw [Slot.start_of_service_eq_none hnone]
      exact ⟨ledger, rfl, fun _ _ => rfl⟩
    · next slot outcome hstart =>
      have hslot : ((Slot.built out c.critical).start config).1 = slot := congrArg Prod.fst hstart
      rw [hslot]
      exact ⟨_, rfl, hother [_, _] (by simp)⟩

/-- The critical service is started unless there is a reason not to use it. -/
theorem startCritical_built_eq_none (ledger : Ledger) :
    ((built c out config ledger shutDown).startCritical config).1 = none ↔
      c.CriticalStarts out config := by
  have hexcluded : (built c out config ledger shutDown).critical.excluded = out c.critical.name :=
    Slot.excluded_built out c.critical
  rw [startCritical, hexcluded]
  cases hout : out c.critical.name with
  | true =>
    simp only [if_true, reduceCtorEq, false_iff]
    intro h
    rw [h.kept] at hout
    cases hout
  | false =>
    by_cases hname : Provider.name c.critical.service = c.critical.name
    · have hstart : (built c out config ledger shutDown).critical.start config = _ :=
        Slot.start_built_of_kept hout hname config
      rw [hstart]
      simp only [Bool.false_eq_true, if_false, StartOutcome.error_status_eq_none]
      exact ⟨fun h => ⟨hout, hname, h⟩, fun h => h.started⟩
    · have hstart : (built c out config ledger shutDown).critical.start config = _ :=
        Slot.start_of_service_eq_none (Slot.service_built_of_misnamed hname) config
      rw [hstart]
      simp only [Bool.false_eq_true, if_false, reduceCtorEq, false_iff]
      exact fun h => hname h.name_eq

/-- If the critical service starts, the start is a success and all services that were built are
started. -/
theorem start_awaiting_ok (h : c.CriticalStarts (config.leavesOut out) config) :
    ∃ ledger, (awaiting c out d shutDown).start config =
      (.ok (),
        { critical := ((Slot.built (config.leavesOut out) c.critical).start config).1
          optional := c.optional.map fun e =>
            ((Slot.built (config.leavesOut out) e).start config).1
          ledger := ledger
          disabled := .ofNames config.disabledTools
          phase := .ready
          shutDown := shutDown }) := by
  obtain ⟨ledger, hcritical, -⟩ := startCritical_built c (config.leavesOut out) shutDown config
    (buildLedger c (config.leavesOut out))
  have hnone := (startCritical_built_eq_none c _ shutDown config
    (buildLedger c (config.leavesOut out))).mpr h
  have hpair : startCritical _ config = (none, _) := Prod.ext hnone hcritical
  rw [start, if_pos (show (awaiting c out d shutDown).phase = .unstarted from rfl),
    prepare_awaiting, hpair]
  exact ⟨_, by simp only [startOptional, built, List.map_map]; rfl⟩

/-- If the critical service does not start, neither does anything else, and the start fails in its
name. -/
theorem start_awaiting_error (h : ¬ c.CriticalStarts (config.leavesOut out) config) :
    ∃ message ledger, (awaiting c out d shutDown).start config =
        (.error (.criticalService c.critical.name message),
          { built c (config.leavesOut out) config ledger shutDown with
            critical := ((Slot.built (config.leavesOut out) c.critical).start config).1
            phase := .failed }) ∧
      ∀ name, name ≠ c.critical.name →
        ledger.status? name = (buildLedger c (config.leavesOut out)).status? name := by
  obtain ⟨ledger, hcritical, hledger⟩ := startCritical_built c (config.leavesOut out) shutDown
    config (buildLedger c (config.leavesOut out))
  have hsome := mt (startCritical_built_eq_none c _ shutDown config
    (buildLedger c (config.leavesOut out))).mp h
  obtain ⟨message, hmessage⟩ := Option.ne_none_iff_exists'.mp hsome
  have hpair : startCritical _ config = (some message, _) := Prod.ext hmessage hcritical
  refine ⟨message, ledger, ?_, hledger⟩
  rw [start, if_pos (show (awaiting c out d shutDown).phase = .unstarted from rfl),
    prepare_awaiting, hpair]
  rfl

/-! ## Runs up to the first start -/

section Run

variable {before : List Operation}

/-- The run up to the first start, and what it leads to. -/
theorem run_start (hbefore : ∀ op ∈ before, op.isStart = false) :
    ∃ d, (ofCatalog c).run (before ++ [.start config]) =
      ((awaiting c (fun name => before.any (·.excludes name)) d
        (decide (.shutdown ∈ before))).start config).2 := by
  obtain ⟨d, hrun⟩ := run_ofCatalog c hbefore
  refine ⟨d, ?_⟩
  rw [run_append, hrun]
  rfl

variable {config}

theorem run_start_of_criticalStarts (hbefore : ∀ op ∈ before, op.isStart = false)
    (h : c.CriticalStarts (leftOut before config) config) :
    ∃ ledger, (ofCatalog c).run (before ++ [.start config]) =
      { critical := ((Slot.built (leftOut before config) c.critical).start config).1
        optional := c.optional.map fun e => ((Slot.built (leftOut before config) e).start config).1
        ledger := ledger
        disabled := .ofNames config.disabledTools
        phase := .ready
        shutDown := decide (.shutdown ∈ before) } := by
  obtain ⟨d, hrun⟩ := run_start c config hbefore
  obtain ⟨ledger, hstart⟩ := start_awaiting_ok c _ d (decide (.shutdown ∈ before)) config h
  exact ⟨ledger, by rw [hrun, hstart]; rfl⟩

theorem run_start_of_not_criticalStarts (hbefore : ∀ op ∈ before, op.isStart = false)
    (h : ¬ c.CriticalStarts (leftOut before config) config) :
    ∃ ledger, (ofCatalog c).run (before ++ [.start config]) =
      { built c (leftOut before config) config ledger (decide (.shutdown ∈ before)) with
        critical := ((Slot.built (leftOut before config) c.critical).start config).1
        phase := .failed } := by
  obtain ⟨d, hrun⟩ := run_start c config hbefore
  obtain ⟨_, ledger, hstart, -⟩ :=
    start_awaiting_error c _ d (decide (.shutdown ∈ before)) config h
  exact ⟨ledger, by rw [hrun, hstart]; rfl⟩

end Run

end Manager

theorem FirstStart.phase_run {before ops : List Operation} {config : Config}
    (h : FirstStart before config ops) (c : Catalog σ) :
    ((Manager.ofCatalog c).run ops).phase = .ready ∨
      ((Manager.ofCatalog c).run ops).phase = .failed := by
  obtain ⟨hbefore, after, rfl⟩ := h
  rw [Manager.run_append]
  by_cases hcritical : c.CriticalStarts (leftOut before config) config
  · obtain ⟨_, hrun⟩ := Manager.run_start_of_criticalStarts c hbefore hcritical
    rw [Manager.phase_run_of_started (by rw [hrun]; simp), hrun]
    exact .inl rfl
  · obtain ⟨_, hrun⟩ := Manager.run_start_of_not_criticalStarts c hbefore hcritical
    rw [Manager.phase_run_of_started (by rw [hrun]; simp), hrun]
    exact .inr rfl

end Switchboard
