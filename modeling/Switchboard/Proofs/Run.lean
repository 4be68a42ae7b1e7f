import Switchboard.Manager.Shutdown
import Switchboard.Manager.Start
import Switchboard.Proofs.NameMap

/-!
# Runs of a manager

A run is a list of operations. The life of a manager has two parts, and each has a closed form:

- until it is started, a manager is its catalog with some names left out, a set of disabled tools
  and the mark of a shutdown (`awaiting`), and an operation changes no more than these
  (`run_awaiting`);
- from then on it is what the start made of it, shut down or not, with a set of disabled tools
  (`run_of_started`).

The start, which leads from the one to the other, is the subject of `Switchboard.Proofs.Start`.
-/

namespace Switchboard

variable {σ : Type}

/-! ## Before anything is built -/

/-- The slot of an entry of which nothing is built; `out` says what is left out. -/
def Slot.awaiting (out : String → Bool) (e : CatalogEntry σ) : Slot σ :=
  ⟨e.name, out e.name, if out e.name then none else some e.service, none, {}⟩

theorem Slot.exclude_awaiting (out : String → Bool) (p : Bool) (e : CatalogEntry σ) :
    (if p && !(awaiting out e).excluded then (awaiting out e).exclude else awaiting out e) =
      ⟨e.name, out e.name || p, if out e.name || p then none else some e.service, none, {}⟩ := by
  cases hout : out e.name <;> cases p <;> simp [awaiting, exclude, hout]

namespace Manager

/-- A manager of which nothing is built. -/
def awaiting (c : Catalog σ) (out : String → Bool) (disabled : DisabledTools) (shutDown : Bool) :
    Manager σ :=
  { critical := .awaiting out c.critical
    optional := c.optional.map (.awaiting out)
    ledger := .empty
    disabled := disabled
    phase := .unstarted
    shutDown := shutDown }

theorem ofCatalog_eq_awaiting (c : Catalog σ) :
    ofCatalog c = awaiting c (fun _ => false) .empty false := rfl

theorem applySelection_awaiting (c : Catalog σ) (out : String → Bool) (d : DisabledTools)
    (shutDown : Bool) (disabled enabled : List String) :
    (awaiting c out d shutDown).applySelection disabled enabled =
      awaiting c (fun name => out name || isExcluded disabled enabled name) d shutDown := by
  have hnames : (awaiting c out d shutDown).slots.map (·.name) = c.names := by
    simp [awaiting, slots, Catalog.names, Catalog.entries, Slot.awaiting]
  have hslot : ∀ e ∈ c.entries,
      (if (excludedServices c.names disabled enabled).contains (Slot.awaiting out e).name &&
          !(Slot.awaiting out e).excluded then (Slot.awaiting out e).exclude
        else Slot.awaiting out e) =
      Slot.awaiting (fun name => out name || isExcluded disabled enabled name) e := by
    intro e he
    have hknown : c.names.contains e.name = true :=
      List.contains_iff_mem.mpr (List.mem_map_of_mem he)
    rw [Slot.exclude_awaiting, show (Slot.awaiting out e).name = e.name from rfl,
      contains_excludedServices, hknown, Bool.true_and]
    rfl
  rw [applySelection, hnames]
  simp only [mapSlots, awaiting, List.map_map, mk.injEq, and_true]
  refine ⟨hslot _ List.mem_cons_self, List.map_congr_left fun e he => ?_⟩
  exact hslot e (List.mem_cons_of_mem _ he)

end Manager

/-! ## Operations -/

/-- What can be done with a manager. -/
inductive Operation where
  | filter (disabled enabled : List String)
  | start (config : Config)
  | disable (tool : String)
  | enable (tool : String)
  | replaceDisabled (tools : List String)
  /-- Enters the tools into a table, which is not part of the manager. -/
  | register
  | verify
  | shutdown
  deriving DecidableEq

def Operation.isStart : Operation → Bool
  | .start _ => true
  | _ => false

/-- The part of a run before the first start. -/
def beforeStart (ops : List Operation) : List Operation := ops.takeWhile (!·.isStart)

theorem isStart_of_mem_beforeStart {ops : List Operation} {op : Operation}
    (h : op ∈ beforeStart ops) : op.isStart = false := by
  induction ops with
  | nil => cases h
  | cons first rest ih =>
    rw [beforeStart, List.takeWhile_cons] at h
    split at h
    · next hfirst =>
      rcases List.mem_cons.mp h with rfl | hrest
      · simpa using hfirst
      · exact ih hrest
    · cases h

/-- Either there is no start in a run, or it goes on with one after the part before it. -/
theorem eq_beforeStart_or (ops : List Operation) :
    ops = beforeStart ops ∨
      ∃ config after, ops = beforeStart ops ++ .start config :: after := by
  induction ops with
  | nil => exact .inl rfl
  | cons first rest ih =>
    cases hfirst : first.isStart with
    | true =>
      cases first with
      | start config => exact .inr ⟨config, rest, rfl⟩
      | _ => cases hfirst
    | false =>
      have hcons : beforeStart (first :: rest) = first :: beforeStart rest := by
        simp [beforeStart, hfirst]
      rw [hcons]
      rcases ih with hnone | ⟨config, after, hsome⟩
      · exact .inl (congrArg _ hnone)
      · exact .inr ⟨config, after, congrArg _ hsome⟩

/-- The first start among operations: what was done before it, and its configuration. -/
structure FirstStart (before : List Operation) (config : Config) (ops : List Operation) : Prop where
  unstarted : ∀ op ∈ before, op.isStart = false
  leads : before ++ [.start config] <+: ops

theorem unstarted_or_firstStart (ops : List Operation) :
    (∀ op ∈ ops, op.isStart = false) ∨ ∃ before config, FirstStart before config ops := by
  rcases eq_beforeStart_or ops with hnone | ⟨config, after, hsome⟩
  · exact .inl fun op hop => isStart_of_mem_beforeStart (hnone ▸ hop)
  · refine .inr ⟨beforeStart ops, config, fun _ => isStart_of_mem_beforeStart, after, ?_⟩
    rw [List.append_assoc]
    exact hsome.symm

/-- Whether an operation leaves out a service, as long as there is time for it. -/
def Operation.excludes (name : String) : Operation → Bool
  | .filter disabled enabled => isExcluded disabled enabled name
  | _ => false

variable [Lifecycle σ]

namespace Manager

/-- The manager after an operation. Registering and verifying only read it. -/
def perform (m : Manager σ) : Operation → Manager σ
  | .filter disabled enabled => m.filterServices disabled enabled
  | .start config => (m.start config).2
  | .disable tool => (m.disableTool tool).2
  | .enable tool => (m.enableTool tool).2
  | .replaceDisabled tools => m.replaceDisabled tools
  | .register => m
  | .verify => m
  | .shutdown => m.shutdown.2

/-- The manager after a run. -/
def run (m : Manager σ) (ops : List Operation) : Manager σ := ops.foldl perform m

@[simp] theorem run_nil (m : Manager σ) : m.run [] = m := rfl

@[simp] theorem run_cons (m : Manager σ) (op : Operation) (ops : List Operation) :
    m.run (op :: ops) = (m.perform op).run ops := rfl

theorem run_append (m : Manager σ) (ops ops' : List Operation) :
    m.run (ops ++ ops') = (m.run ops).run ops' := List.foldl_append

/-! ## From the start on -/

theorem shutdown_withDisabled (m : Manager σ) (disabled : DisabledTools) :
    ({ m with disabled := disabled } : Manager σ).shutdown.2 =
      { m.shutdown.2 with disabled := disabled } := by
  rw [shutdown_eq, shutdown_eq]
  split <;> rfl

theorem shutdown_shutdown (m : Manager σ) : m.shutdown.2.shutdown.2 = m.shutdown.2 := by
  have hdone : m.shutdown.2.shutDown = true := by
    rw [shutdown_eq]
    split
    · assumption
    · rfl
  rw [shutdown_eq, if_pos hdone]

/-- After the start an operation shuts the manager down or changes the disabled tools. -/
theorem perform_of_started {m : Manager σ} (h : m.phase ≠ .unstarted) (op : Operation) :
    ∃ disabled, m.perform op =
      { (if op = .shutdown then m.shutdown.2 else m) with disabled := disabled } := by
  cases op with
  | filter _ _ => exact ⟨m.disabled, by simp [perform, filterServices, h]⟩
  | start _ => exact ⟨m.disabled, by simp [perform, start, h]⟩
  | disable tool => exact ⟨_, rfl⟩
  | enable tool => exact ⟨_, rfl⟩
  | replaceDisabled tools => exact ⟨_, rfl⟩
  | register => exact ⟨m.disabled, rfl⟩
  | verify => exact ⟨m.disabled, rfl⟩
  | shutdown => exact ⟨m.shutdown.2.disabled, rfl⟩

theorem phase_shutdown (m : Manager σ) : m.shutdown.2.phase = m.phase := by
  rw [shutdown_eq]
  split <;> rfl

/-- Unless it starts a manager that is not started, an operation leaves out services, changes the
disabled tools or shuts the manager down. -/
theorem perform_cases {m : Manager σ} {op : Operation}
    (hop : op.isStart = false ∨ m.phase ≠ .unstarted) :
    (∃ p : Slot σ → Bool, m.perform op = m.mapSlots fun s => if p s then s.exclude else s) ∨
      (∃ disabled, m.perform op = { m with disabled := disabled }) ∨
      m.perform op = m.shutdown.2 := by
  cases op with
  | filter disabled enabled =>
    by_cases hm : m.phase = .unstarted
    · let excluded := excludedServices (m.slots.map (·.name)) disabled enabled
      refine .inl ⟨fun s => excluded.contains s.name && !s.excluded, ?_⟩
      rw [perform, filterServices, if_pos hm]
      rfl
    · exact .inr (.inl ⟨m.disabled, by rw [perform, filterServices, if_neg hm]⟩)
  | start config =>
    have hm : m.phase ≠ .unstarted := hop.resolve_left (by simp [Operation.isStart])
    exact .inr (.inl ⟨m.disabled, by rw [perform, start, if_neg hm]⟩)
  | disable tool => exact .inr (.inl ⟨_, rfl⟩)
  | enable tool => exact .inr (.inl ⟨_, rfl⟩)
  | replaceDisabled tools => exact .inr (.inl ⟨_, rfl⟩)
  | register => exact .inr (.inl ⟨m.disabled, rfl⟩)
  | verify => exact .inr (.inl ⟨m.disabled, rfl⟩)
  | shutdown => exact .inr (.inr rfl)

/-- Only the start of a manager that is not started changes the phase. -/
theorem phase_perform {m : Manager σ} {op : Operation}
    (hop : op.isStart = false ∨ m.phase ≠ .unstarted) : (m.perform op).phase = m.phase := by
  rcases perform_cases hop with ⟨p, heq⟩ | ⟨disabled, heq⟩ | heq
  · rw [heq]
    rfl
  · rw [heq]
  · rw [heq, phase_shutdown]

/-- Only whether the manager is started matters to an operation other than its start. -/
theorem perform_with {m : Manager σ} {phase : Phase} {op : Operation} (ledger : Ledger)
    (hphase : phase = .unstarted ↔ m.phase = .unstarted)
    (hop : op.isStart = false ∨ m.phase ≠ .unstarted) :
    ({ m with ledger := ledger, phase := phase } : Manager σ).perform op =
      { m.perform op with ledger := ledger, phase := phase } := by
  cases op with
  | filter disabled enabled =>
    simp only [perform, filterServices]
    by_cases hm : m.phase = .unstarted
    · rw [if_pos (hphase.mpr hm), if_pos hm]
      rfl
    · rw [if_neg fun h => hm (hphase.mp h), if_neg hm]
  | start config =>
    have hm : m.phase ≠ .unstarted := hop.resolve_left (by simp [Operation.isStart])
    simp only [perform, start]
    rw [if_neg fun h => hm (hphase.mp h), if_neg hm]
  | disable _ => rfl
  | enable _ => rfl
  | replaceDisabled _ => rfl
  | register => rfl
  | verify => rfl
  | shutdown =>
    simp only [perform, shutdown_eq]
    split <;> rfl

theorem phase_run_of_started {m : Manager σ} (h : m.phase ≠ .unstarted) (ops : List Operation) :
    (m.run ops).phase = m.phase := by
  induction ops generalizing m with
  | nil => rfl
  | cons op rest ih =>
    have hop : (m.perform op).phase = m.phase := phase_perform (.inr h)
    rw [run_cons, ih (hop ▸ h), hop]

/-- After the start a run shuts the manager down, if it does so anywhere, and changes the disabled
tools. -/
theorem run_of_started {m : Manager σ} (h : m.phase ≠ .unstarted) (ops : List Operation) :
    ∃ disabled, m.run ops =
      { (if .shutdown ∈ ops then m.shutdown.2 else m) with disabled := disabled } := by
  induction ops generalizing m with
  | nil => exact ⟨m.disabled, rfl⟩
  | cons op rest ih =>
    obtain ⟨d, hop⟩ := perform_of_started h op
    have hphase : (m.perform op).phase ≠ .unstarted := by rwa [phase_perform (.inr h)]
    obtain ⟨disabled, hrest⟩ := ih hphase
    refine ⟨disabled, ?_⟩
    rw [run_cons, hrest, hop]
    by_cases hshut : op = .shutdown
    · subst hshut
      simp [shutdown_withDisabled, shutdown_shutdown]
    · by_cases hlater : Operation.shutdown ∈ rest
      · simp [hshut, hlater, shutdown_withDisabled]
      · simp [hshut, Ne.symm hshut, hlater]

end Manager

/-! ## Until the start -/

namespace Manager

variable (c : Catalog σ) (out : String → Bool) (d : DisabledTools) (shutDown : Bool)

/-- There is nothing to close before anything is built. -/
theorem shutdown_awaiting :
    (awaiting c out d shutDown).shutdown.2 = awaiting c out d true := by
  have hcalls : (awaiting c out d shutDown).slots.filterMap closing? = [] := by
    simp [awaiting, slots, closing?, Slot.close, Slot.awaiting]
  rw [shutdown_eq, hcalls]
  split
  · next h => rw [show shutDown = true from h]
  · simp [mapSlots, awaiting, Slot.close, Slot.awaiting]

/-- Until the start an operation leaves out services, marks the shutdown or changes the disabled
tools. -/
theorem perform_awaiting {op : Operation} (h : op.isStart = false) :
    ∃ d', (awaiting c out d shutDown).perform op =
      awaiting c (fun name => out name || op.excludes name) d'
        (shutDown || decide (op = .shutdown)) := by
  cases op with
  | filter disabled enabled =>
    exact ⟨d, by simp [perform, filterServices, applySelection_awaiting, Operation.excludes,
      show (awaiting c out d shutDown).phase = .unstarted from rfl]⟩
  | start _ => cases h
  | disable tool => exact ⟨(d.disable tool).2, by simp [Operation.excludes]; rfl⟩
  | enable tool => exact ⟨(d.enable tool).2, by simp [Operation.excludes]; rfl⟩
  | replaceDisabled tools => exact ⟨.ofNames tools, by simp [Operation.excludes]; rfl⟩
  | register => exact ⟨d, by simp [perform, Operation.excludes]⟩
  | verify => exact ⟨d, by simp [perform, Operation.excludes]⟩
  | shutdown => exact ⟨d, by simp [perform, shutdown_awaiting, Operation.excludes]⟩

/-- Until the start a run leaves out what any of its operations leaves out. -/
theorem run_awaiting {ops : List Operation} (h : ∀ op ∈ ops, op.isStart = false) :
    ∃ d', (awaiting c out d shutDown).run ops =
      awaiting c (fun name => out name || ops.any (·.excludes name)) d'
        (shutDown || decide (.shutdown ∈ ops)) := by
  induction ops generalizing out d shutDown with
  | nil => exact ⟨d, by simp⟩
  | cons op rest ih =>
    obtain ⟨d₁, hop⟩ := perform_awaiting c out d shutDown (h op List.mem_cons_self)
    obtain ⟨d₂, hrest⟩ := ih (fun name => out name || op.excludes name) d₁
      (shutDown || decide (op = .shutdown)) fun o ho => h o (List.mem_cons_of_mem _ ho)
    refine ⟨d₂, ?_⟩
    rw [run_cons, hop, hrest]
    simp only [List.any_cons, List.mem_cons, Bool.or_assoc, Bool.decide_or, eq_comm]

/-- Until the start a manager is its catalog without what the operations leave out. -/
theorem run_ofCatalog {ops : List Operation} (h : ∀ op ∈ ops, op.isStart = false) :
    ∃ d, (ofCatalog c).run ops =
      awaiting c (fun name => ops.any (·.excludes name)) d (decide (.shutdown ∈ ops)) := by
  obtain ⟨d, hrun⟩ := run_awaiting c (fun _ => false) .empty false h
  simp only [Bool.false_or] at hrun
  exact ⟨d, hrun⟩

end Manager

end Switchboard
