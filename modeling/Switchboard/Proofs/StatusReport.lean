import Switchboard.Proofs.CriticalService
import Switchboard.Proofs.Naming
import Switchboard.Proofs.Outcomes

/-!
# The status report of a started manager

Slots, registry, ledger and the services themselves are written independently of each other. After a
start that is a success they say the same: every line of the report is settled
(`ServiceReport.IsSettled`), and the names of the enabled services and the counts of the ledger can
be read off the report (`report_agrees`).

The lines of the report are those of the entries (`line`), whatever is done afterwards short of a
shutdown. That a service is enabled exactly if it started holds of new services.
-/

namespace Switchboard

/-- A new service is enabled afterwards exactly if it starts. -/
theorem Service.isEnabled_start {s : Service} (h : s.isNew = true) (config : Config) :
    (s.start config).2.isEnabled = (s.start config).1.status.succeeded := by
  by_cases hstart : (s.start config).1 = .started
  · rw [hstart]
    cases s with
    | endpoints e =>
      simp only [isNew, Bool.and_eq_true, Bool.not_eq_true'] at h
      simp only [start] at hstart ⊢
      cases he : e.start config with
      | error failure => simp [he] at hstart
      | ok e' =>
        obtain ⟨-, connection, rfl⟩ := EndpointService.start_eq_ok he
        simp [isEnabled, EndpointService.isEnabled, EndpointService.connection?, h.2]
        rfl
    | utilities enabled => rfl
    | scripted script enabled =>
      revert hstart
      simp only [start, startScript]
      split
      · rintro ⟨⟩
      · rintro ⟨⟩
      · rintro ⟨⟩
      · rintro ⟨⟩
      · split
        · rintro ⟨⟩
        · exact fun _ => rfl
  · rw [isEnabled_start_of_isNew h hstart]
    cases houtcome : (s.start config).1 with
    | started => exact absurd houtcome hstart
    | failed _ => rfl
    | brokeDown _ => rfl

namespace ServiceReport

/-- Whether a line says that its service started. -/
def hasSucceeded (r : ServiceReport) : Bool := r.status.any (·.succeeded)

/-- A line about a service that is left out says no more than that; any other says what came of the
attempt, either that the service is enabled or why it is not. -/
structure IsSettled (r : ServiceReport) : Prop where
  of_excluded : r.excluded = true → r.enabled = false ∧ r.status = none
  of_kept : r.excluded = false → ∃ status, r.status = some status ∧ status.attempted = true ∧
    (status.succeeded = true ∧ status.error = none ∨
      status.succeeded = false ∧ status.error.isSome = true)
  enabled_eq : r.enabled = r.hasSucceeded

end ServiceReport

theorem StartOutcome.status_cases (outcome : StartOutcome) :
    outcome.status.attempted = true ∧
      (outcome.status.succeeded = true ∧ outcome.status.error = none ∨
        outcome.status.succeeded = false ∧ outcome.status.error.isSome = true) := by
  cases outcome with
  | started => exact ⟨rfl, .inl ⟨rfl, rfl⟩⟩
  | failed _ => exact ⟨rfl, .inr ⟨rfl, rfl⟩⟩
  | brokeDown _ => exact ⟨rfl, .inr ⟨rfl, rfl⟩⟩

namespace Slot

variable {out : String → Bool} {e : CatalogEntry Service} {config : Config}

theorem isEnabled_final_of_none (h : (built out e).service = none) :
    (final out config e).isEnabled = false := by
  rw [final, start_of_service_eq_none h, isEnabled, h]

theorem isNamed_final : (final out config e).IsNamed :=
  (keeps_start config).isNamed _ (keeps_construct.isNamed _ (isNamed_of_service_eq_none rfl))

end Slot

namespace CatalogEntry

/-- The line of the report about an entry after a start that is a success. -/
def line (e : CatalogEntry Service) (out : String → Bool) (config : Config) (critical : Bool) :
    ServiceReport :=
  { name := e.name
    critical := critical
    excluded := out e.name
    enabled := (Slot.final out config e).isEnabled
    status := Slot.finalStatus? out config e }

theorem isSettled_line {e : CatalogEntry Service} (hnew : e.service.isNew = true)
    (out : String → Bool) (config : Config) (critical : Bool) :
    (e.line out config critical).IsSettled := by
  cases hout : out e.name with
  | true =>
    have henabled : (e.line out config critical).enabled = false :=
      Slot.isEnabled_final_of_none (Slot.service_built_of_leftOut hout)
    have hstatus : (e.line out config critical).status = none := by
      simp [line, Slot.finalStatus?, hout]
    exact
      { of_excluded := fun _ => ⟨henabled, hstatus⟩
        of_kept := fun hkept => by simp [line, hout] at hkept
        enabled_eq := by simp [ServiceReport.hasSucceeded, henabled, hstatus] }
  | false =>
    by_cases hname : Provider.name e.service = e.name
    · have henabled : (e.line out config critical).enabled =
          (Lifecycle.start e.service config).1.status.succeeded := by
        simp only [line, Slot.final, Slot.start_built_of_kept hout hname, Slot.isEnabled]
        exact Service.isEnabled_start hnew config
      have hstatus : (e.line out config critical).status =
          some (Lifecycle.start e.service config).1.status := by
        simp [line, Slot.finalStatus?, hout, hname]
      exact
        { of_excluded := fun hleft => by simp [line, hout] at hleft
          of_kept := fun _ => ⟨_, hstatus, StartOutcome.status_cases _⟩
          enabled_eq := by simp [ServiceReport.hasSucceeded, henabled, hstatus] }
    · have henabled : (e.line out config critical).enabled = false :=
        Slot.isEnabled_final_of_none (Slot.service_built_of_misnamed hname)
      have hstatus : (e.line out config critical).status =
          some (.failure (Slot.misnamedText e)) := by
        simp [line, Slot.finalStatus?, hout, hname]
      exact
        { of_excluded := fun hleft => by simp [line, hout] at hleft
          of_kept := fun _ => ⟨_, hstatus, rfl, .inr ⟨rfl, rfl⟩⟩
          enabled_eq := by
            simp [ServiceReport.hasSucceeded, henabled, hstatus, ServiceStatus.failure] }

end CatalogEntry

namespace Manager

/-! ## Ledger and report -/

section

variable {σ : Type} [Provider σ] {m : Manager σ}

theorem names_report (m : Manager σ) : m.report.map (·.name) = m.slots.map (·.name) := by
  simp [report, reportOf, slots, Function.comp_def]

theorem status_of_mem_report {r : ServiceReport} (h : r ∈ m.report) :
    r.status = m.ledger.status? r.name := by
  rcases List.mem_cons.mp h with rfl | h
  · rfl
  · obtain ⟨s, -, rfl⟩ := List.mem_map.mp h
    rfl

/-- If the ledger knows no other names than those of the slots, it lists what the lines of the
report say. -/
theorem perm_ledger_report (hnodup : (m.slots.map (·.name)).Nodup)
    (hledger : ∀ name, name ∉ m.slots.map (·.name) → m.ledger.status? name = none) :
    m.ledger.entries.entries.Perm
      (m.report.filterMap fun r => r.status.map (r.name, ·)) := by
  rw [← names_report] at hnodup hledger
  have hlines : (m.report.filterMap fun r => r.status.map (r.name, ·)).Nodup := by
    refine List.Nodup.of_map Prod.fst (nodup_map_filterMap (fun r line hline => ?_) hnodup)
    obtain ⟨_, -, rfl⟩ := Option.map_eq_some_iff.mp hline
    rfl
  refine (List.perm_ext_iff_of_nodup (NameMap.nodup_entries _) hlines).mpr fun e => ?_
  obtain ⟨name, status⟩ := e
  have hfind : m.ledger.entries.find? name = m.ledger.status? name := rfl
  rw [NameMap.mem_entries, hfind]
  simp only [List.mem_filterMap, Option.map_eq_some_iff]
  constructor
  · intro hstatus
    by_cases hname : name ∈ m.report.map (·.name)
    · obtain ⟨r, hr, rfl⟩ := List.mem_map.mp hname
      exact ⟨r, hr, status, (status_of_mem_report hr).trans hstatus, rfl⟩
    · rw [hledger name hname] at hstatus
      cases hstatus
  · rintro ⟨r, hr, status', hstatus, heq⟩
    obtain ⟨rfl, rfl⟩ := Prod.mk.inj heq
    rw [← status_of_mem_report hr, hstatus]

/-- The counts of the ledger are those of the report. -/
theorem counts_eq_countP (hnodup : (m.slots.map (·.name)).Nodup)
    (hledger : ∀ name, name ∉ m.slots.map (·.name) → m.ledger.status? name = none)
    (hsettled : ∀ r ∈ m.report, r.IsSettled) :
    m.ledger.counts = (m.report.countP (·.hasSucceeded),
      m.report.countP fun r => !r.excluded && !r.hasSucceeded) := by
  have hperm := perm_ledger_report hnodup hledger
  have hok : m.ledger.entries.values.countP (·.succeeded) = m.report.countP (·.hasSucceeded) := by
    rw [NameMap.values, List.countP_map, hperm.countP_eq, List.countP_filterMap]
    refine List.countP_congr fun r _ => ?_
    cases hstatus : r.status with
    | none => simp [ServiceReport.hasSucceeded, hstatus]
    | some status => simp [ServiceReport.hasSucceeded, hstatus]
  have hsize : m.ledger.entries.size = m.report.countP (!·.excluded) := by
    rw [NameMap.size, hperm.length_eq, List.length_filterMap_eq_countP]
    refine List.countP_congr fun r hr => ?_
    cases hexcluded : r.excluded with
    | true => simp [((hsettled r hr).of_excluded hexcluded).2]
    | false =>
      obtain ⟨status, hstatus, -⟩ := (hsettled r hr).of_kept hexcluded
      simp [hstatus]
  have hsplit : m.report.countP (!·.excluded) = m.report.countP (·.hasSucceeded) +
      m.report.countP fun r => !r.excluded && !r.hasSucceeded := by
    rw [List.countP_eq_countP_filter_add m.report _ (·.hasSucceeded), List.countP_filter,
      List.countP_filter]
    refine congrArg (· + _) (List.countP_congr fun r hr => ?_)
    cases hexcluded : r.excluded with
    | true => simp [ServiceReport.hasSucceeded, ((hsettled r hr).of_excluded hexcluded).2]
    | false => simp
  rw [Ledger.counts, hok, hsize, hsplit]
  simp

/-- The names of the enabled services are those of the lines that say so. -/
theorem mem_enabledNames_iff_report (hnamed : ∀ s ∈ m.slots, s.IsNamed) (name : String) :
    name ∈ m.enabledNames ↔ ∃ r ∈ m.report, r.name = name ∧ r.enabled = true := by
  rw [mem_enabledNames hnamed]
  simp [report, reportOf, slots]

end

/-! ## After a start -/

variable {c : Catalog Service} {config : Config} {before after : List Operation}

/-- A start that is a success is one of the critical service. -/
theorem criticalStarts_of_start_eq_ok (hbefore : ∀ op ∈ before, op.isStart = false)
    (hok : (((ofCatalog c).run before).start config).1 = .ok ()) :
    c.CriticalStarts (leftOut before config) config := by
  obtain ⟨d, hm⟩ := run_ofCatalog c hbefore
  by_contra h
  obtain ⟨message, ledger, hstart, -⟩ := start_awaiting_error c
    (fun name => before.any (·.excludes name)) d (decide (.shutdown ∈ before)) config h
  rw [hm, hstart] at hok
  cases hok

/-- What a manager reads like after a start that is a success, as long as it is not shut down. -/
theorem reads_of_start_eq_ok (hnames : c.names.Nodup)
    (hbefore : ∀ op ∈ before, op.isStart = false)
    (hok : (((ofCatalog c).run before).start config).1 = .ok ()) (hafter : .shutdown ∉ after) :
    let m := (((ofCatalog c).run before).start config).2.run after
    m.report = c.critical.line (leftOut before config) config true ::
        c.optional.map (·.line (leftOut before config) config false) ∧
      m.slots = c.entries.map (Slot.final (leftOut before config) config) ∧
      ∀ name, name ∉ c.names → m.ledger.status? name = none := by
  intro m
  obtain ⟨d, hm⟩ := run_ofCatalog c hbefore
  obtain ⟨ledger, hstart, hstatus, hnone⟩ := start_of_criticalStarts hnames d
    (decide (.shutdown ∈ before)) (criticalStarts_of_start_eq_ok hbefore hok)
  rw [← hm] at hstart
  have hphase : (((ofCatalog c).run before).start config).2.phase ≠ .unstarted := by
    rw [hstart]
    exact fun h => by cases h
  obtain ⟨disabled, hrun⟩ := run_of_started hphase after
  rw [if_neg hafter] at hrun
  have hcritical : m.critical = Slot.final (leftOut before config) config c.critical :=
    (congrArg Manager.critical hrun).trans (congrArg (·.2.critical) hstart)
  have hoptional : m.optional = c.optional.map (Slot.final (leftOut before config) config) :=
    (congrArg Manager.optional hrun).trans (congrArg (·.2.optional) hstart)
  have hledger : m.ledger = ledger :=
    (congrArg Manager.ledger hrun).trans (congrArg (·.2.ledger) hstart)
  have hline : ∀ critical, ∀ e ∈ c.entries,
      m.reportOf critical (Slot.final (leftOut before config) config e) =
        e.line (leftOut before config) config critical := by
    intro critical e he
    rw [reportOf, Slot.name_final, Slot.excluded_final, hledger, hstatus e he]
    rfl
  refine ⟨?_, ?_, fun name hname => ?_⟩
  · rw [report, hcritical, hoptional, hline true _ List.mem_cons_self, List.map_map]
    refine congrArg _ (List.map_congr_left fun e he => ?_)
    exact hline false e (List.mem_cons_of_mem _ he)
  · rw [slots, hcritical, hoptional]
    rfl
  · rw [hledger, hnone name hname]

/-- After a start that is a success and until the shutdown, slots, registry and ledger agree: there
is one line in the report for each entry, in catalog order; every line is settled, and that of the
critical service says that it started; the enabled services are those that started, by ascending
name; and the ledger counts those that started and those that were attempted and did not. -/
theorem report_agrees (hnames : c.names.Nodup) (hnew : ∀ e ∈ c.entries, e.service.isNew = true)
    (hbefore : ∀ op ∈ before, op.isStart = false)
    (hok : (((ofCatalog c).run before).start config).1 = .ok ()) (hafter : .shutdown ∉ after) :
    let m := (((ofCatalog c).run before).start config).2.run after
    m.report.map (·.name) = c.names ∧
      (∀ r ∈ m.report, r.IsSettled) ∧
      (∃ first rest, m.report = first :: rest ∧ first.name = c.critical.name ∧
        first.critical = true ∧ first.hasSucceeded = true ∧ ∀ r ∈ rest, r.critical = false) ∧
      m.enabledNames.Pairwise (· < ·) ∧
      (∀ name, name ∈ m.enabledNames ↔ ∃ r ∈ m.report, r.name = name ∧ r.hasSucceeded = true) ∧
      m.ledger.counts = (m.report.countP (·.hasSucceeded),
        m.report.countP fun r => !r.excluded && !r.hasSucceeded) := by
  intro m
  have hcritical := criticalStarts_of_start_eq_ok hbefore hok
  obtain ⟨hreport, hslots, hnone⟩ := reads_of_start_eq_ok hnames hbefore hok hafter
  have hslotNames : m.slots.map (·.name) = c.names := by
    rw [show m.slots = _ from hslots, List.map_map]
    exact List.map_congr_left fun e _ => Slot.name_final _ config e
  have hnamed : ∀ s ∈ m.slots, s.IsNamed := by
    intro s hs
    rw [show m.slots = _ from hslots] at hs
    obtain ⟨e, -, rfl⟩ := List.mem_map.mp hs
    exact Slot.isNamed_final
  have hsettled : ∀ r ∈ m.report, r.IsSettled := by
    intro r hr
    rw [show m.report = _ from hreport] at hr
    rcases List.mem_cons.mp hr with rfl | hr
    · exact CatalogEntry.isSettled_line (hnew _ List.mem_cons_self) _ config true
    · obtain ⟨e, he, rfl⟩ := List.mem_map.mp hr
      exact CatalogEntry.isSettled_line (hnew e (List.mem_cons_of_mem _ he)) _ config false
  refine ⟨by rw [names_report, hslotNames], hsettled, ⟨_, _, hreport, rfl, rfl, ?_, ?_⟩,
    pairwise_enabledNames m, ?_,
    counts_eq_countP (hslotNames ▸ hnames) (hslotNames ▸ hnone) hsettled⟩
  · rw [ServiceReport.hasSucceeded, CatalogEntry.line, Slot.finalStatus?, hcritical.kept,
      if_pos hcritical.name_eq, hcritical.started]
    rfl
  · intro r hr
    obtain ⟨e, -, rfl⟩ := List.mem_map.mp hr
    rfl
  · intro name
    rw [mem_enabledNames_iff_report hnamed]
    refine exists_congr fun r => and_congr_right fun hr => ?_
    rw [(hsettled r hr).enabled_eq]

/-- One service of each kind: started, failing, breaking down, misnamed and left out. -/
theorem report_of_mixed_services :
    let script (s : Script) : Service := .scripted s false
    let c : Catalog Service := ⟨⟨"core", script { name := "core" }⟩,
      [⟨"utilities", .utilities false⟩,
        ⟨"weak", script { name := "weak", startError := some "x" }⟩,
        ⟨"frail", script { name := "frail", breakdown := some .early }⟩,
        ⟨"alias", script { name := "core" }⟩,
        ⟨"spare", script { name := "spare" }⟩]⟩
    let before : List Operation := [.filter ["spare"] []]
    let m := (((ofCatalog c).run before).start {}).2.run [.disable "t", .start {}, .register]
    m.report.map (·.name) = ["core", "utilities", "weak", "frail", "alias", "spare"] ∧
      (∀ r ∈ m.report, r.IsSettled) ∧ m.ledger.counts = (2, 3) := by
  intro script c before m
  have hbefore : ∀ op ∈ before, op.isStart = false := by decide
  have hok : (((ofCatalog c).run before).start {}).1 = .ok () := by decide
  have hafter : Operation.shutdown ∉ [.disable "t", .start {}, .register] := by decide
  obtain ⟨hnames, hsettled, -, -, -, hcounts⟩ :=
    report_agrees (by decide) (by decide) hbefore hok hafter
  obtain ⟨hreport, -⟩ := reads_of_start_eq_ok (by decide) hbefore hok hafter
  refine ⟨hnames, hsettled, hcounts.trans ?_⟩
  rw [hreport]
  decide

end Manager

end Switchboard
