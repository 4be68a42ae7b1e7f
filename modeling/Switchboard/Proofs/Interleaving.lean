import Mathlib.Algebra.GroupWithZero.Nat
import Switchboard.Proofs.Outcomes
import Switchboard.Service.Basic

/-!
# Starts side by side, in any order

`Manager.startOptional` writes the ledger in one order, that of the delays. Here the starts are
tasks that take turns in any order (`Launch.Step`): a loop announces the services one after the
other and sets off a task for each; a task starts its service and writes what came of it, unless the
start breaks down; and once no task is under way, the break-downs are written.

What the ledger says about a service depends on the stage of its task alone (`Launch.Sound`),
because a step writes about the name of one task and the names are different. So all orders end
alike, and as `startOptional` does (`Launch.Sound.ledger_eq`).
-/

namespace Switchboard

/-- How far the start of a service has got. -/
inductive Stage where
  /-- The loop that sets off the tasks has not come to it. -/
  | waiting
  /-- The service is announced, and its task is under way. -/
  | running
  /-- The start came to its end or broke down, and the ledger does not say so. -/
  | ended (outcome : StartOutcome)
  /-- The ledger says what came of the start, if there was a service to start. -/
  | settled (outcome : Option StartOutcome)
  deriving Repr, DecidableEq

namespace Stage

def isSettled : Stage → Bool
  | .settled _ => true
  | _ => false

/-- Whether the task is over: all that may be left is to write that it broke down. -/
def isOver : Stage → Bool
  | .ended outcome => !outcome.isOrderly
  | .settled _ => true
  | _ => false

/-- What the ledger says at a stage, if it said `old` before the launch. -/
def status? (old : Option ServiceStatus) : Stage → Option ServiceStatus
  | .waiting => old
  | .running => some .pending
  | .ended _ => some .pending
  | .settled outcome => (outcome.map (·.status)).or old

end Stage

/-- The slot of a service and the stage of the task that starts it. -/
structure Task (σ : Type) where
  slot : Slot σ
  stage : Stage

/-- How many steps a task has before it. -/
def Task.work {σ : Type} (t : Task σ) : Nat :=
  match t.stage with
  | .waiting => if t.slot.service.isSome then 3 else 1
  | .running => 2
  | .ended _ => 1
  | .settled _ => 0

/-- Services that are started side by side, and the ledger that all their tasks write. -/
structure Launch (σ : Type) where
  tasks : List (Task σ)
  ledger : Ledger

namespace Launch

variable {σ : Type}

/-- The launch of the services of slots, before anything is done. -/
def ofSlots (slots : List (Slot σ)) (ledger : Ledger) : Launch σ :=
  ⟨slots.map (⟨·, .waiting⟩), ledger⟩

def slots (L : Launch σ) : List (Slot σ) := L.tasks.map (·.slot)

/-- Whether everything is done. -/
def isSettled (L : Launch σ) : Bool := L.tasks.all (·.stage.isSettled)

/-- How many steps there are to do. -/
def work (L : Launch σ) : Nat := (L.tasks.map Task.work).sum

variable [Lifecycle σ] {config : Config}

/-- What a task does in one step, and what is written about it then. It has to wait for others in
two places: the loop takes the slots in their order, and so does the end of the launch, once all
tasks are over. -/
inductive Turn (config : Config) (before after : List (Task σ)) :
    Task σ → List LedgerRecord → Task σ → Prop
  /-- The loop passes over a slot without a service. -/
  | pass {s : Slot σ} (hloop : ∀ t ∈ before, t.stage ≠ .waiting) (hnone : s.service = none) :
    Turn config before after ⟨s, .waiting⟩ [] ⟨s, .settled none⟩
  /-- The loop announces a service and sets off its task. -/
  | spawn {s : Slot σ} (hloop : ∀ t ∈ before, t.stage ≠ .waiting) (hsome : s.service ≠ none) :
    Turn config before after ⟨s, .waiting⟩ [⟨s.name, .pending⟩] ⟨s, .running⟩
  /-- The start of a service comes to its end or breaks down. -/
  | finish {s s' : Slot σ} {outcome : StartOutcome} (hstart : s.start config = (s', some outcome)) :
    Turn config before after ⟨s, .running⟩ [] ⟨s', .ended outcome⟩
  /-- A task whose start came to its end writes what came of it. -/
  | report {s : Slot σ} {outcome : StartOutcome} (horderly : outcome.isOrderly = true) :
    Turn config before after ⟨s, .ended outcome⟩ [⟨s.name, outcome.status⟩]
      ⟨s, .settled (some outcome)⟩
  /-- A break-down is written at the end of the launch. -/
  | reportBreakdown {s : Slot σ} {outcome : StartOutcome} (hbroken : outcome.isOrderly = false)
      (hbefore : ∀ t ∈ before, t.stage.isSettled = true)
      (hafter : ∀ t ∈ after, t.stage.isOver = true) :
    Turn config before after ⟨s, .ended outcome⟩ [⟨s.name, outcome.status⟩]
      ⟨s, .settled (some outcome)⟩

/-- One step of a launch: it is the turn of any task that can do something. -/
inductive Step (config : Config) : Launch σ → Launch σ → Prop
  | turn {before after : List (Task σ)} {t t' : Task σ} {rs : List LedgerRecord} (l : Ledger)
      (hturn : Turn config before after t rs t') :
    Step config ⟨before ++ t :: after, l⟩ ⟨before ++ t' :: after, l.recordAll rs⟩

/-- A number of steps. -/
inductive Run (config : Config) : Nat → Launch σ → Launch σ → Prop
  | none (L : Launch σ) : Run config 0 L L
  | next {n : Nat} {L M N : Launch σ} (hrun : Run config n L M) (hstep : Step config M N) :
    Run config (n + 1) L N

/-! ## Every step counts -/

section Turn

variable {before after : List (Task σ)} {t t' : Task σ} {rs : List LedgerRecord}

theorem Turn.work_eq (h : Turn config before after t rs t') : t.work = t'.work + 1 := by
  cases h with
  | pass _ hnone => simp [Task.work, hnone]
  | spawn _ hsome => simp [Task.work, Option.isSome_iff_ne_none.mpr hsome]
  | finish _ => rfl
  | report _ => rfl
  | reportBreakdown _ _ _ => rfl

end Turn

theorem Step.work_eq {L M : Launch σ} (h : Step config L M) : L.work = M.work + 1 := by
  obtain ⟨l, hturn⟩ := h
  have hwork := hturn.work_eq
  simp only [work, List.map_append, List.map_cons, List.sum_append, List.sum_cons]
  omega

/-- However the tasks take turns, they are done after the same number of steps. -/
theorem Run.work_eq {n : Nat} {L M : Launch σ} (h : Run config n L M) : n + M.work = L.work := by
  induction h with
  | none _ => exact Nat.zero_add _
  | next _ hstep ih =>
    have hwork := hstep.work_eq
    omega

/-! ## What is true at every stage -/

/-- What a task may have made of the slot that it began with. -/
inductive Comes (config : Config) (s₀ : Slot σ) : Task σ → Prop
  | waiting : Comes config s₀ ⟨s₀, .waiting⟩
  | running (hsome : s₀.service ≠ none) : Comes config s₀ ⟨s₀, .running⟩
  | ended {s : Slot σ} {outcome : StartOutcome} (hstart : s₀.start config = (s, some outcome)) :
    Comes config s₀ ⟨s, .ended outcome⟩
  | settled {s : Slot σ} {outcome : Option StartOutcome} (hstart : s₀.start config = (s, outcome)) :
    Comes config s₀ ⟨s, .settled outcome⟩

theorem name_of_start_eq {s s' : Slot σ} {outcome : Option StartOutcome}
    (hstart : s.start config = (s', outcome)) : s'.name = s.name := by
  rw [← Slot.name_start config s, hstart]

theorem Comes.name_eq {s₀ : Slot σ} {t : Task σ} (h : Comes config s₀ t) :
    t.slot.name = s₀.name := by
  cases h with
  | waiting => rfl
  | running _ => rfl
  | ended hstart => exact name_of_start_eq hstart
  | settled hstart => exact name_of_start_eq hstart

section Turn

variable {before after : List (Task σ)} {t t' : Task σ} {rs : List LedgerRecord}

theorem Turn.comes (h : Turn config before after t rs t') {s₀ : Slot σ} (ht : Comes config s₀ t) :
    Comes config s₀ t' := by
  cases h with
  | pass _ hnone =>
    cases ht
    exact .settled (Slot.start_of_service_eq_none hnone config)
  | spawn _ hsome =>
    cases ht
    exact .running hsome
  | finish hstart =>
    cases ht
    exact .ended hstart
  | report _ =>
    cases ht with
    | ended hstart => exact .settled hstart
  | reportBreakdown _ _ _ =>
    cases ht with
    | ended hstart => exact .settled hstart

theorem Turn.name_eq (h : Turn config before after t rs t') : t'.slot.name = t.slot.name := by
  cases h with
  | pass _ _ => rfl
  | spawn _ _ => rfl
  | finish hstart => exact name_of_start_eq hstart
  | report _ => rfl
  | reportBreakdown _ _ _ => rfl

/-- A task writes about its own service only. -/
theorem Turn.service_eq (h : Turn config before after t rs t') {r : LedgerRecord} (hr : r ∈ rs) :
    r.service = t.slot.name := by
  cases h with
  | pass _ _ => cases hr
  | spawn _ _ => rw [List.mem_singleton.mp hr]
  | finish _ => cases hr
  | report _ => rw [List.mem_singleton.mp hr]
  | reportBreakdown _ _ _ => rw [List.mem_singleton.mp hr]

/-- A task keeps the ledger at what its stage allows. -/
theorem Turn.status?_eq (h : Turn config before after t rs t') {l : Ledger}
    {old : Option ServiceStatus} (ht : l.status? t.slot.name = t.stage.status? old) :
    (l.recordAll rs).status? t.slot.name = t'.stage.status? old := by
  cases h with
  | pass _ _ => exact ht
  | spawn _ _ => exact (Ledger.status?_record _ _ _).trans (if_pos rfl)
  | finish _ => exact ht
  | report _ => exact (Ledger.status?_record _ _ _).trans (if_pos rfl)
  | reportBreakdown _ _ _ => exact (Ledger.status?_record _ _ _).trans (if_pos rfl)

end Turn

/-- Every task has come from its slot, and the ledger says of each what its stage allows and of
other names what it said before. -/
structure Sound (config : Config) (slots₀ : List (Slot σ)) (l₀ : Ledger) (L : Launch σ) : Prop where
  comes : List.Forall₂ (Comes config) slots₀ L.tasks
  status?_of_mem : ∀ t ∈ L.tasks,
    L.ledger.status? t.slot.name = t.stage.status? (l₀.status? t.slot.name)
  status?_of_not_mem : ∀ name, name ∉ slots₀.map (·.name) →
    L.ledger.status? name = l₀.status? name

theorem sound_ofSlots (config : Config) (slots : List (Slot σ)) (l : Ledger) :
    Sound config slots l (ofSlots slots l) where
  comes := forall₂_map_of_forall fun _ _ => .waiting
  status?_of_mem t ht := by
    obtain ⟨s, -, rfl⟩ := List.mem_map.mp ht
    rfl
  status?_of_not_mem _ _ := rfl

theorem map_name_of_comes {slots : List (Slot σ)} {tasks : List (Task σ)}
    (h : List.Forall₂ (Comes config) slots tasks) :
    tasks.map (·.slot.name) = slots.map (·.name) := by
  induction h with
  | nil => rfl
  | cons hfirst _ ih => rw [List.map_cons, List.map_cons, hfirst.name_eq, ih]

variable {slots₀ : List (Slot σ)} {l₀ : Ledger}

/-- The turn of a task is the turn of the slot that it began with. -/
theorem Step.comes {L M : Launch σ} (hstep : Step config L M)
    (h : List.Forall₂ (Comes config) slots₀ L.tasks) :
    List.Forall₂ (Comes config) slots₀ M.tasks := by
  obtain ⟨l, hturn⟩ := hstep
  exact forall₂_replace (fun _ => hturn.comes) h

theorem Sound.step (hnodup : (slots₀.map (·.name)).Nodup) {L M : Launch σ}
    (h : Sound config slots₀ l₀ L) (hstep : Step config L M) : Sound config slots₀ l₀ M := by
  have hcomes := hstep.comes h.comes
  obtain ⟨l, hturn⟩ := hstep
  next before after t t' rs =>
  have hnames := map_name_of_comes h.comes
  -- no other task has the name that is written about
  have hother : ∀ u ∈ before ++ after, u.slot.name ≠ t.slot.name := by
    intro u hu heq
    rw [← hnames, List.map_append, List.map_cons, List.nodup_middle, ← List.map_append] at hnodup
    exact (List.nodup_cons.mp hnodup).1 (List.mem_map.mpr ⟨u, hu, heq⟩)
  have hkeep : ∀ name, name ≠ t.slot.name →
      (l.recordAll rs).status? name = l.status? name := fun name hne =>
    Ledger.status?_recordAll_of_forall_ne
      (fun r hr heq => hne (heq.symm.trans (hturn.service_eq hr))) l
  refine ⟨hcomes, fun u hu => ?_, fun name hne => ?_⟩
  · have hcases : u = t' ∨ u ∈ before ++ after := by
      simpa [or_left_comm, or_assoc] using hu
    rcases hcases with rfl | hu
    · rw [hturn.name_eq]
      exact hturn.status?_eq (h.status?_of_mem t (by simp))
    · rw [hkeep _ (hother u hu)]
      refine h.status?_of_mem u ?_
      rcases List.mem_append.mp hu with hu | hu
      · exact List.mem_append_left _ hu
      · exact List.mem_append_right _ (List.mem_cons_of_mem _ hu)
  · have hmem : t.slot.name ∈ slots₀.map (·.name) := by
      rw [← hnames]
      simp
    rw [hkeep name fun heq => hne (heq ▸ hmem)]
    exact h.status?_of_not_mem name hne

theorem Sound.run (hnodup : (slots₀.map (·.name)).Nodup) {n : Nat} {L M : Launch σ}
    (hrun : Run config n L M) (h : Sound config slots₀ l₀ L) : Sound config slots₀ l₀ M := by
  induction hrun with
  | none _ => exact h
  | next _ hstep ih => exact (ih h).step hnodup hstep

/-! ## There is always a step until the end -/

/-- As long as the loop has not come to all slots, it can go on. -/
theorem exists_step_of_waiting {L : Launch σ} (h : ∃ t ∈ L.tasks, t.stage = .waiting) :
    ∃ M, Step config L M := by
  obtain ⟨tasks, l⟩ := L
  obtain ⟨before, ⟨s, stage⟩, after, rfl, hstage, hbefore⟩ :=
    exists_first (p := fun t : Task σ => decide (t.stage = .waiting)) (by simpa using h)
  obtain rfl : stage = .waiting := by simpa using hstage
  have hloop : ∀ t ∈ before, t.stage ≠ .waiting := by simpa using hbefore
  cases hservice : s.service with
  | none => exact ⟨_, .turn l (.pass hloop hservice)⟩
  | some service => exact ⟨_, .turn l (.spawn hloop (by simp [hservice]))⟩

/-- A task that is under way comes to an end. -/
theorem exists_step_of_running {L : Launch σ} (hcomes : List.Forall₂ (Comes config) slots₀ L.tasks)
    (hrunning : ∃ t ∈ L.tasks, t.stage = .running) : ∃ M, Step config L M := by
  obtain ⟨⟨s, _⟩, ht, rfl⟩ := hrunning
  obtain ⟨_, _, hthis⟩ := exists_mem_of_forall₂ hcomes.flip ht
  cases hthis with
  | running hsome =>
    obtain ⟨tasks, l⟩ := L
    obtain ⟨before, after, rfl⟩ := List.append_of_mem ht
    cases hstart : (s.start config).2 with
    | none => exact absurd (Slot.service_eq_none_of_start hstart) hsome
    | some outcome => exact ⟨_, .turn l (.finish (Prod.ext rfl hstart))⟩

/-- A start that came to its end can be written, whatever the other tasks do. -/
theorem exists_step_of_orderly {L : Launch σ}
    (h : ∃ t ∈ L.tasks, ∃ outcome, t.stage = .ended outcome ∧ outcome.isOrderly = true) :
    ∃ M, Step config L M := by
  obtain ⟨tasks, l⟩ := L
  obtain ⟨⟨s, _⟩, ht, outcome, rfl, horderly⟩ := h
  obtain ⟨before, after, rfl⟩ := List.append_of_mem ht
  exact ⟨_, .turn l (.report horderly)⟩

/-- Once all tasks are over, the first break-down that is not written can be written. -/
theorem exists_step_of_over {L : Launch σ} (hover : ∀ t ∈ L.tasks, t.stage.isOver = true)
    (h : L.isSettled = false) : ∃ M, Step config L M := by
  obtain ⟨tasks, l⟩ := L
  obtain ⟨before, ⟨s, stage⟩, after, rfl, hstage, hbefore⟩ :=
    exists_first (p := fun t : Task σ => !t.stage.isSettled) (by simpa [isSettled] using h)
  have hthis : stage.isOver = true := hover ⟨s, stage⟩ (by simp)
  cases stage with
  | waiting => cases hthis
  | running => cases hthis
  | settled _ => cases hstage
  | ended outcome =>
    have hbroken : outcome.isOrderly = false := by simpa [Stage.isOver] using hthis
    exact ⟨_, .turn l (.reportBreakdown hbroken (by simpa using hbefore)
      fun t ht => hover t (by simp [ht]))⟩

theorem exists_step {L : Launch σ} (hcomes : List.Forall₂ (Comes config) slots₀ L.tasks)
    (hsettled : L.isSettled = false) : ∃ M, Step config L M := by
  by_cases hwaiting : ∃ t ∈ L.tasks, t.stage = .waiting
  · exact exists_step_of_waiting hwaiting
  by_cases hrunning : ∃ t ∈ L.tasks, t.stage = .running
  · exact exists_step_of_running hcomes hrunning
  by_cases horderly : ∃ t ∈ L.tasks, ∃ outcome, t.stage = .ended outcome ∧ outcome.isOrderly = true
  · exact exists_step_of_orderly horderly
  refine exists_step_of_over (fun t ht => ?_) hsettled
  cases hstage : t.stage with
  | waiting => exact absurd ⟨t, ht, hstage⟩ hwaiting
  | running => exact absurd ⟨t, ht, hstage⟩ hrunning
  | settled _ => rfl
  | ended outcome =>
    have hbroken : outcome.isOrderly ≠ true := fun h => horderly ⟨t, ht, outcome, hstage, h⟩
    simpa [Stage.isOver] using hbroken

theorem Sound.exists_step {L : Launch σ} (h : Sound config slots₀ l₀ L)
    (hsettled : L.isSettled = false) : ∃ M, Step config L M :=
  Launch.exists_step h.comes hsettled

/-! ## The end -/

/-- In the end every slot is started. -/
theorem tasks_eq {L : Launch σ} (hcomes : List.Forall₂ (Comes config) slots₀ L.tasks)
    (hsettled : L.isSettled = true) :
    L.tasks = slots₀.map fun s => ⟨(s.start config).1, .settled (s.start config).2⟩ := by
  rw [isSettled, List.all_eq_true] at hsettled
  generalize L.tasks = tasks at hcomes hsettled
  induction hcomes with
  | nil => rfl
  | cons hfirst _ ih =>
    rw [List.map_cons, ih fun t ht => hsettled t (List.mem_cons_of_mem _ ht)]
    congr 1
    have hfirst' := hsettled _ List.mem_cons_self
    cases hfirst with
    | waiting => cases hfirst'
    | running _ => cases hfirst'
    | ended _ => cases hfirst'
    | settled hstart => rw [hstart]

/-- In the end the ledger is what it is if the starts come to their ends in the order of their
delays. -/
theorem Sound.ledger_eq {m : Manager σ} (hnodup : (m.optional.map (·.name)).Nodup) {L : Launch σ}
    (h : Sound config m.optional m.ledger L) (hsettled : L.isSettled = true) :
    L.ledger = (m.startOptional config).ledger := by
  refine Ledger.ext_status? fun name => ?_
  by_cases hname : name ∈ m.optional.map (·.name)
  · obtain ⟨s, hs, rfl⟩ := List.mem_map.mp hname
    have ht : ⟨(s.start config).1, .settled (s.start config).2⟩ ∈ L.tasks := by
      rw [tasks_eq h.comes hsettled]
      exact List.mem_map_of_mem hs
    rw [Manager.status?_startOptional_of_mem hnodup hs]
    simpa [Stage.status?] using h.status?_of_mem _ ht
  · rw [h.status?_of_not_mem name hname, Manager.status?_startOptional_of_not_mem hname]

theorem slots_eq {L : Launch σ} (hcomes : List.Forall₂ (Comes config) slots₀ L.tasks)
    (hsettled : L.isSettled = true) : L.slots = slots₀.map fun s => (s.start config).1 := by
  rw [slots, tasks_eq hcomes hsettled, List.map_map]
  rfl

theorem Sound.slots_eq {m : Manager σ} {L : Launch σ} (h : Sound config m.optional m.ledger L)
    (hsettled : L.isSettled = true) : L.slots = (m.startOptional config).optional :=
  Launch.slots_eq h.comes hsettled

end Launch

namespace Manager

variable [Lifecycle σ]

/-- The manager with the critical service started and the others built. -/
def beforeLaunch (m : Manager σ) (config : Config) : Manager σ :=
  ((m.prepare config).startCritical config).2

variable {c : Catalog σ} {out : String → Bool} {d : DisabledTools} {shutDown : Bool}
  {config : Config}

/-- The start of a manager whose critical service starts is the launch of the others. -/
theorem start_eq_launch (h : c.CriticalStarts (config.leavesOut out) config) :
    (awaiting c out d shutDown).start config =
      (.ok (), { ((awaiting c out d shutDown).beforeLaunch config).startOptional config with
        phase := .ready }) := by
  rw [start, if_pos (show (awaiting c out d shutDown).phase = .unstarted from rfl), beforeLaunch,
    prepare_awaiting, startCritical_of_criticalStarts h]

theorem names_beforeLaunch (h : c.CriticalStarts (config.leavesOut out) config) :
    ((awaiting c out d shutDown).beforeLaunch config).optional.map (·.name) =
      c.optional.map (·.name) := by
  rw [beforeLaunch, prepare_awaiting, startCritical_of_criticalStarts h]
  simp [built]

/-- Where the critical service starts, the starts of the others may take turns in any order. They
all come to their end after the same number of steps, and whatever the order was, the manager is
then the one that `start` makes. In particular the ledger says of every service that was started
what came of its own start, of a service that goes by a wrong name that it does, and nothing of one
that is left out. -/
theorem launch_ends_alike (hnames : c.names.Nodup) (config : Config) (before : List Operation)
    (hbefore : ∀ op ∈ before, op.isStart = false)
    (hcritical : c.CriticalStarts (leftOut before config) config) :
    let m := (ofCatalog c).run before
    let first := Launch.ofSlots (m.beforeLaunch config).optional (m.beforeLaunch config).ledger
    ∀ n L, Launch.Run config n first L →
      n + L.work = first.work ∧
      (L.isSettled = false → ∃ M, Launch.Step config L M) ∧
      (L.isSettled = true →
        m.start config = (.ok (), { m.beforeLaunch config with
          optional := L.slots, ledger := L.ledger, phase := .ready }) ∧
        ∀ e ∈ c.optional, L.ledger.status? e.name =
          if leftOut before config e.name then none
          else if Provider.name e.service = e.name then
            some (Lifecycle.start e.service config).1.status
          else some (.failure (Slot.misnamedText e))) := by
  intro m first n L hrun
  obtain ⟨d, hm⟩ := run_ofCatalog c hbefore
  have hslots : ((m.beforeLaunch config).optional.map (·.name)).Nodup := by
    rw [show m = _ from hm, names_beforeLaunch hcritical]
    exact (List.nodup_cons.mp hnames).2
  have hsound : Launch.Sound config (m.beforeLaunch config).optional
      (m.beforeLaunch config).ledger L :=
    (Launch.sound_ofSlots config _ _).run hslots hrun
  refine ⟨hrun.work_eq, hsound.exists_step, fun hsettled => ?_⟩
  have hstart : m.start config = (.ok (), { m.beforeLaunch config with
      optional := L.slots, ledger := L.ledger, phase := .ready }) := by
    rw [hsound.slots_eq hsettled, hsound.ledger_eq hslots hsettled, show m = _ from hm,
      start_eq_launch hcritical]
    rfl
  refine ⟨hstart, fun e he => ?_⟩
  obtain ⟨ledger, hledger, hstatus, -⟩ :=
    start_of_criticalStarts hnames d (decide (.shutdown ∈ before)) hcritical
  rw [← hm, hstart] at hledger
  obtain rfl : L.ledger = ledger := congrArg (·.2.ledger) hledger
  exact hstatus e (List.mem_cons_of_mem _ he)

/-- In whatever order a service that starts and one that breaks down take turns. -/
theorem launch_of_breakdown_beside_success :
    let side : Service := .scripted { name := "side", delay := 5 } false
    let frail : Service := .scripted { name := "frail", breakdown := some .wordless } false
    let c : Catalog Service :=
      ⟨⟨"core", .scripted { name := "core" } false⟩, [⟨"side", side⟩, ⟨"frail", frail⟩]⟩
    let m := (ofCatalog c).run [.filter ["absent"] []]
    ∀ n L, Launch.Run {}
        n (.ofSlots (m.beforeLaunch {}).optional (m.beforeLaunch {}).ledger) L →
      L.isSettled = true →
        (m.start {}).2.phase = .ready ∧ L.ledger.status? "side" = some .success ∧
          L.ledger.status? "frail" =
            some (.failure "panicked during initialization: non-string panic payload") := by
  intro side frail c m n L hrun hsettled
  have h := launch_ends_alike (c := c) (by decide) {} [.filter ["absent"] []] (by decide)
    ⟨by decide, by decide, by decide⟩ n L hrun
  obtain ⟨hstart, hstatus⟩ := h.2.2 hsettled
  refine ⟨by rw [hstart], ?_, ?_⟩
  · exact hstatus ⟨"side", side⟩ (by simp [c])
  · exact hstatus ⟨"frail", frail⟩ (by simp [c])

end Manager

end Switchboard
