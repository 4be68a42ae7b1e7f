import Switchboard.Proofs.Start

/-!
# What a start leaves behind

Of a catalog whose entries have different names, a start that is a success makes a manager that can
be read off entry by entry (`start_of_criticalStarts`): the slot is `Slot.final`, and the ledger
says `Slot.finalStatus?`. What becomes of an entry depends on its own service alone.

The ledger is written for several entries in turn, and for the services that start side by side in
the order in which their starts come to an end. Since the names are different, no line replaces a
line about another entry, so the order does not show (`status?_startRecords_of_mem`).
-/

namespace Switchboard

/-! ## Lines about different names -/

namespace Ledger

theorem recordAll_append (l : Ledger) (rs rs' : List LedgerRecord) :
    l.recordAll (rs ++ rs') = (l.recordAll rs).recordAll rs' := List.foldl_append

/-- The last line about a name counts. -/
theorem status?_recordAll (l : Ledger) (rs : List LedgerRecord) (name : String) :
    (l.recordAll rs).status? name =
      ((rs.filter (·.service = name)).getLast?.map (·.status)).or (l.status? name) := by
  induction rs using List.reverseRec with
  | nil => rfl
  | append_singleton rs r ih =>
    rw [recordAll_append, show (l.recordAll rs).recordAll [r] = (l.recordAll rs).record r from rfl,
      status?_record, List.filter_append]
    by_cases hr : r.service = name
    · simp [hr]
    · simp [hr, ih]

/-- Of lines about different names none is replaced. -/
theorem status?_recordAll_of_mem {rs : List LedgerRecord} (hnodup : (rs.map (·.service)).Nodup)
    {r : LedgerRecord} (h : r ∈ rs) (l : Ledger) :
    (l.recordAll rs).status? r.service = some r.status := by
  induction rs generalizing l with
  | nil => cases h
  | cons first rest ih =>
    obtain ⟨hfirst, hrest⟩ := List.nodup_cons.mp hnodup
    rcases List.mem_cons.mp h with rfl | hr
    · have hlater : ∀ r' ∈ rest, r'.service ≠ r.service := fun r' hr' heq =>
        hfirst (List.mem_map.mpr ⟨r', hr', heq⟩)
      rw [show l.recordAll (r :: rest) = (l.record r).recordAll rest from rfl,
        status?_recordAll_of_forall_ne hlater, status?_record, if_pos rfl]
    · exact ih hrest hr (l.record first)

/-- Ledgers that say the same about every name are the same. -/
theorem ext_status? {l l' : Ledger} (h : ∀ name, l.status? name = l'.status? name) : l = l' := by
  have hentries : l.entries = l'.entries := NameMap.ext_find? h
  cases l
  cases l'
  cases hentries
  rfl

end Ledger

variable {σ : Type}

/-! ## Starts side by side -/

namespace Manager

/-- The starts that come to their end and those that break down are all of them. -/
theorem ended_append_broken_perm (starts : List Started) :
    (((starts.filter (·.outcome.isOrderly)).mergeSort fun a b => decide (a.delay ≤ b.delay)) ++
      starts.filter (!·.outcome.isOrderly)).Perm starts :=
  ((List.mergeSort_perm _ _).append_right _).trans (List.filter_append_perm _ starts)

/-- Whatever order starts of different names come to their ends in, each leaves its own outcome. -/
theorem status?_startRecords_of_mem {starts : List Started}
    (hnodup : (starts.map (·.name)).Nodup) {s : Started} (h : s ∈ starts) (l : Ledger) :
    (l.recordAll (startRecords starts)).status? s.name = some s.outcome.status := by
  have hperm := ended_append_broken_perm starts
  rw [startRecords, Ledger.recordAll_append]
  refine Ledger.status?_recordAll_of_mem (r := ⟨s.name, s.outcome.status⟩) ?_ ?_ _
  · rw [List.map_map]
    exact (hperm.map _).nodup_iff.mpr hnodup
  · exact List.mem_map_of_mem (hperm.mem_iff.mpr h)

theorem status?_startRecords_of_forall_ne {starts : List Started} {name : String}
    (h : ∀ s ∈ starts, s.name ≠ name) (l : Ledger) :
    (l.recordAll (startRecords starts)).status? name = l.status? name := by
  refine Ledger.status?_recordAll_of_forall_ne (fun r hr => ?_) l
  rcases List.mem_append.mp hr with hr | hr
  · obtain ⟨s, hs, rfl⟩ := List.mem_map.mp hr
    exact h s hs
  · obtain ⟨s, hs, rfl⟩ := List.mem_map.mp hr
    exact h s ((ended_append_broken_perm starts).mem_iff.mp hs)

variable [Lifecycle σ]

theorem name_of_ofSlot? {config : Config} {s : Slot σ} {started : Started}
    (h : Started.ofSlot? config s = some started) : started.name = s.name := by
  obtain ⟨_, _, rfl⟩ := Option.map_eq_some_iff.mp h
  rfl

/-- The starts of slots of different names have different names. -/
theorem nodup_filterMap_ofSlot? {slots : List (Slot σ)} (hnodup : (slots.map (·.name)).Nodup)
    (config : Config) : ((slots.filterMap (Started.ofSlot? config)).map (·.name)).Nodup :=
  nodup_map_filterMap (fun _ _ => name_of_ofSlot?) hnodup

/-- What starting the other services side by side makes the ledger say about one of them. -/
theorem status?_startOptional_of_mem {m : Manager σ} (hnodup : (m.optional.map (·.name)).Nodup)
    {s : Slot σ} (hs : s ∈ m.optional) (config : Config) :
    (m.startOptional config).ledger.status? s.name =
      ((s.start config).2.map (·.status)).or (m.ledger.status? s.name) := by
  cases hstart : (s.start config).2 with
  | some outcome =>
    have hmem : (⟨s.name, s.delay, outcome⟩ : Started) ∈
        m.optional.filterMap (Started.ofSlot? config) :=
      List.mem_filterMap.mpr ⟨s, hs, by rw [Started.ofSlot?, hstart]; rfl⟩
    exact status?_startRecords_of_mem (nodup_filterMap_ofSlot? hnodup config) hmem m.ledger
  | none =>
    refine status?_startRecords_of_forall_ne (fun started hstarted heq => ?_) m.ledger
    obtain ⟨s', hs', hof⟩ := List.mem_filterMap.mp hstarted
    obtain rfl : s' = s :=
      List.inj_on_of_nodup_map hnodup hs' hs ((name_of_ofSlot? hof).symm.trans heq)
    rw [Started.ofSlot?, hstart] at hof
    cases hof

theorem status?_startOptional_of_not_mem {m : Manager σ} {name : String}
    (h : name ∉ m.optional.map (·.name)) (config : Config) :
    (m.startOptional config).ledger.status? name = m.ledger.status? name := by
  refine status?_startRecords_of_forall_ne (fun started hstarted heq => h ?_) m.ledger
  obtain ⟨s, hs, hof⟩ := List.mem_filterMap.mp hstarted
  exact List.mem_map.mpr ⟨s, hs, (name_of_ofSlot? hof).symm.trans heq⟩

end Manager

/-! ## Building -/

namespace Slot

variable [Provider σ] (out : String → Bool) (e : CatalogEntry σ)

/-- Why a service is not kept for its entry. -/
def misnamedText : String :=
  "service reports name '" ++ Provider.name e.service ++ "' but is catalogued as '" ++ e.name ++ "'"

/-- What the ledger says about an entry once everything that is left is built. -/
def builtStatus? : Option ServiceStatus :=
  if out e.name = false ∧ Provider.name e.service ≠ e.name then some (.failure (misnamedText e))
  else none

variable {out e}

theorem construct_awaiting_snd : (awaiting out e).construct.2 =
    if out e.name = false ∧ Provider.name e.service ≠ e.name then some (misnamedText e)
    else none := by
  cases hout : out e.name with
  | true => simp [construct, awaiting, hout]
  | false =>
    by_cases hname : Provider.name e.service = e.name
    · simp [construct, awaiting, hout, hname]
    · have hsome : (awaiting out e).construct.2 = some (misnamedText e) := by
        simp only [construct, awaiting, hout, Bool.false_eq_true, if_false, if_neg hname]
        rfl
      rw [hsome, if_pos ⟨rfl, hname⟩]

theorem status?_buildRecords (l : Ledger) :
    (l.recordAll (buildRecords out e)).status? e.name =
      (builtStatus? out e).or (l.status? e.name) := by
  rw [buildRecords, construct_awaiting_snd, builtStatus?]
  split
  · simp [Manager.misnamedRecords, Ledger.recordAll]
  · rfl

end Slot

namespace Manager

variable [Lifecycle σ]

/-- Building leaves a line about an entry exactly if its service is not kept for its name. -/
theorem status?_buildLedger {c : Catalog σ} (hnodup : c.names.Nodup) {e : CatalogEntry σ}
    (he : e ∈ c.entries) (out : String → Bool) :
    (buildLedger c out).status? e.name = Slot.builtStatus? out e := by
  obtain ⟨before, after, hsplit⟩ := List.append_of_mem he
  have hnames : (before.map (·.name) ++ e.name :: after.map (·.name)).Nodup := by
    rw [Catalog.names, hsplit, List.map_append] at hnodup
    exact hnodup
  have hother : ∀ es : List (CatalogEntry σ), e.name ∉ es.map (·.name) →
      ∀ r ∈ es.flatMap (Slot.buildRecords out), r.service ≠ e.name := by
    intro es hes r hr heq
    obtain ⟨e', he', hr⟩ := List.mem_flatMap.mp hr
    obtain ⟨hservice, -⟩ := Slot.of_mem_buildRecords out e' hr
    exact hes (List.mem_map.mpr ⟨e', he', hservice.symm.trans heq⟩)
  have honce := (List.nodup_cons.mp (List.nodup_middle.mp hnames)).1
  rw [List.mem_append, not_or] at honce
  obtain ⟨hbefore, hafter⟩ := honce
  rw [buildLedger, hsplit, List.flatMap_append, List.flatMap_cons, Ledger.recordAll_append,
    Ledger.recordAll_append, Ledger.status?_recordAll_of_forall_ne (hother after hafter),
    Slot.status?_buildRecords, Ledger.status?_recordAll_of_forall_ne (hother before hbefore)]
  exact Option.or_none

theorem status?_buildLedger_of_not_mem {c : Catalog σ} {name : String} (h : name ∉ c.names)
    (out : String → Bool) : (buildLedger c out).status? name = none := by
  refine Ledger.status?_recordAll_of_forall_ne (fun r hr heq => h ?_) .empty
  obtain ⟨e, he, hr⟩ := List.mem_flatMap.mp hr
  obtain ⟨hservice, -⟩ := Slot.of_mem_buildRecords out e hr
  exact List.mem_map.mpr ⟨e, he, hservice.symm.trans heq⟩

end Manager

/-! ## The whole start -/

namespace Slot

variable [Lifecycle σ] (out : String → Bool) (config : Config) (e : CatalogEntry σ)

/-- What a start that is a success makes of the slot of an entry. -/
def final : Slot σ := ((built out e).start config).1

/-- What a start that is a success makes the ledger say about an entry. -/
def finalStatus? : Option ServiceStatus :=
  if out e.name then none
  else if Provider.name e.service = e.name then
    some (Lifecycle.start e.service config).1.status
  else some (.failure (misnamedText e))

@[simp] theorem name_final : (final out config e).name = e.name := by
  rw [final, name_start, name_built]

@[simp] theorem excluded_final : (final out config e).excluded = out e.name := by
  rw [final, excluded_start, excluded_built]

/-- An entry is started unless the ledger says already that it goes by a wrong name. -/
theorem finalStatus?_eq :
    finalStatus? out config e =
      (((built out e).start config).2.map (·.status)).or (builtStatus? out e) := by
  rw [finalStatus?, builtStatus?]
  cases hout : out e.name with
  | true =>
    rw [start_of_service_eq_none (service_built_of_leftOut hout)]
    simp
  | false =>
    by_cases hname : Provider.name e.service = e.name
    · rw [start_built_of_kept hout hname]
      simp [hname]
    · rw [start_of_service_eq_none (service_built_of_misnamed hname)]
      simp [hname]

end Slot

namespace Manager

variable [Lifecycle σ] {c : Catalog σ} {out : String → Bool} {config : Config}

/-- The critical service is announced and started, and the ledger says so. -/
theorem startCritical_of_criticalStarts (h : c.CriticalStarts out config) (ledger : Ledger)
    (shutDown : Bool) :
    (built c out config ledger shutDown).startCritical config =
      (none, { built c out config ledger shutDown with
        critical := Slot.final out config c.critical
        ledger := ledger.recordAll
          [⟨c.critical.name, .pending⟩, ⟨c.critical.name, .success⟩] }) := by
  have hexcluded : (built c out config ledger shutDown).critical.excluded = false :=
    (Slot.excluded_built out c.critical).trans h.kept
  have hstart : ((built c out config ledger shutDown).critical.start config).2 = some .started := by
    change ((Slot.built out c.critical).start config).2 = _
    rw [Slot.start_built_of_kept h.kept h.name_eq, h.started]
  rw [startCritical_of_some hexcluded hstart]
  simp [built, Slot.final, StartOutcome.status, ServiceStatus.success]

/-- The first start, if it is a success, read off the catalog. -/
theorem start_of_criticalStarts (hnodup : c.names.Nodup) (d : DisabledTools) (shutDown : Bool)
    (h : c.CriticalStarts (config.leavesOut out) config) :
    ∃ ledger, (awaiting c out d shutDown).start config =
        (.ok (),
          { critical := Slot.final (config.leavesOut out) config c.critical
            optional := c.optional.map (Slot.final (config.leavesOut out) config)
            ledger := ledger
            disabled := .ofNames config.disabledTools
            phase := .ready
            shutDown := shutDown }) ∧
      (∀ e ∈ c.entries,
        ledger.status? e.name = Slot.finalStatus? (config.leavesOut out) config e) ∧
      ∀ name, name ∉ c.names → ledger.status? name = none := by
  generalize hout : config.leavesOut out = out' at h
  let m : Manager σ := { built c out' config (buildLedger c out') shutDown with
    critical := Slot.final out' config c.critical
    ledger := (buildLedger c out').recordAll
      [⟨c.critical.name, .pending⟩, ⟨c.critical.name, .success⟩] }
  have hstart : (awaiting c out d shutDown).start config =
      (.ok (), { m.startOptional config with phase := .ready }) := by
    rw [start, if_pos (show (awaiting c out d shutDown).phase = .unstarted from rfl),
      prepare_awaiting, hout, startCritical_of_criticalStarts h]
  have hnames : m.optional.map (·.name) = c.optional.map (·.name) := by simp [m, built]
  have hcritical : c.critical.name ∉ c.optional.map (·.name) := (List.nodup_cons.mp hnodup).1
  have hother : ∀ name, name ≠ c.critical.name →
      m.ledger.status? name = (buildLedger c out').status? name := fun name hne =>
    Ledger.status?_recordAll_of_forall_ne (by simp [hne.symm]) _
  have hkept : ∀ name, name ∉ c.optional.map (·.name) →
      (m.startOptional config).ledger.status? name = m.ledger.status? name := fun name hname =>
    status?_startOptional_of_not_mem (hnames ▸ hname) config
  refine ⟨(m.startOptional config).ledger, ?_, fun e he => ?_, fun name hname => ?_⟩
  · rw [hstart]
    simp only [startOptional, m, built, List.map_map]
    rfl
  · rcases List.mem_cons.mp he with rfl | he
    · rw [hkept _ hcritical, Slot.finalStatus?, h.kept, if_pos h.name_eq, h.started]
      simp [m, Ledger.recordAll, StartOutcome.status]
    · have hne : e.name ≠ c.critical.name := fun heq =>
        hcritical (heq ▸ List.mem_map_of_mem he)
      have hmem : Slot.built out' e ∈ m.optional := List.mem_map_of_mem he
      have hstatus := status?_startOptional_of_mem
        (hnames ▸ (List.nodup_cons.mp hnodup).2) hmem config
      rw [Slot.name_built] at hstatus
      rw [hstatus, hother e.name hne, status?_buildLedger hnodup (List.mem_cons_of_mem _ he),
        Slot.finalStatus?_eq]
  · have hnot : name ≠ c.critical.name ∧ name ∉ c.optional.map (·.name) := by
      simpa [Catalog.names, Catalog.entries] using hname
    rw [hkept name hnot.2, hother name hnot.1, status?_buildLedger_of_not_mem hname]

end Manager

end Switchboard
