import Switchboard.Manager.Basic

/-!
# Starting

A manager is started once. The services that are left are built, then the critical one is started,
and only if that succeeds the others, all at once. A failure of the critical service is the failure
of the whole start; a failure of another service is written into the ledger and nothing else.

A breakdown of the critical service is taken for a failure by `startCritical` and `start`: the phase
is failed, and the ledger has the failure. At work the breakdown comes out of the start instead, and
leaves the manager initializing with a pending line in the ledger. That course of events is the step
`Course.Step.breakDown` of `Switchboard.Proofs.Course`; no start of this module takes it.
-/

namespace Switchboard.Manager

variable {σ : Type} [Lifecycle σ]

/-! ## Building -/

/-- Lines of the ledger about a slot whose service goes by a wrong name. -/
def misnamedRecords (name : String) : Option String → List LedgerRecord
  | some message => [⟨name, .pending⟩, ⟨name, .failure message⟩]
  | none => []

/-- Builds all services that are left. -/
def construct (m : Manager σ) : Manager σ :=
  let built := m.mapSlots fun s => s.construct.1
  { built with
    ledger := m.ledger.recordAll
      (m.slots.flatMap fun s => misnamedRecords s.name s.construct.2) }

/-! ## The critical service -/

/-- Starts the critical service; says why it cannot be used. A breakdown is recorded as a failure. -/
def startCritical (m : Manager σ) (c : Config) : Option String × Manager σ :=
  let name := m.critical.name
  if m.critical.excluded then
    let message := "excluded by configuration"
    (some message, { m with ledger := m.ledger.recordFailure name message })
  else
    match m.critical.start c with
    | (_, none) => (some ((m.ledger.error? name).getD "service was not constructed"), m)
    | (slot, some outcome) =>
      (outcome.status.error,
        { m with
          critical := slot
          ledger := m.ledger.recordAll [⟨name, .pending⟩, ⟨name, outcome.status⟩] })

section

variable {m : Manager σ} {config : Config}

theorem startCritical_of_excluded (h : m.critical.excluded = true) :
    m.startCritical config = (some "excluded by configuration", { m with
      ledger := m.ledger.recordAll
        [⟨m.critical.name, .failure "excluded by configuration"⟩] }) := by
  rw [startCritical, if_pos h]
  rfl

theorem startCritical_of_none (h : m.critical.excluded = false)
    (hstart : (m.critical.start config).2 = none) :
    m.startCritical config =
      (some ((m.ledger.error? m.critical.name).getD "service was not constructed"), m) := by
  have hpair : m.critical.start config = ((m.critical.start config).1, none) := Prod.ext rfl hstart
  rw [startCritical, if_neg (by simp [h]), hpair]

theorem startCritical_of_some (h : m.critical.excluded = false) {outcome : StartOutcome}
    (hstart : (m.critical.start config).2 = some outcome) :
    m.startCritical config = (outcome.status.error, { m with
      critical := (m.critical.start config).1
      ledger := m.ledger.recordAll
        [⟨m.critical.name, .pending⟩, ⟨m.critical.name, outcome.status⟩] }) := by
  have hpair : m.critical.start config = ((m.critical.start config).1, some outcome) :=
    Prod.ext rfl hstart
  rw [startCritical, if_neg (by simp [h]), hpair]

theorem startCritical_withPhase (m : Manager σ) (config : Config) (phase : Phase) :
    ({ m with phase := phase } : Manager σ).startCritical config =
      ((m.startCritical config).1, { (m.startCritical config).2 with phase := phase }) := by
  cases hexcluded : m.critical.excluded with
  | true =>
    rw [startCritical_of_excluded hexcluded,
      startCritical_of_excluded (m := { m with phase := phase }) hexcluded]
  | false =>
    cases hstart : (m.critical.start config).2 with
    | none =>
      rw [startCritical_of_none hexcluded hstart,
        startCritical_of_none (m := { m with phase := phase }) hexcluded hstart]
    | some outcome =>
      rw [startCritical_of_some hexcluded hstart,
        startCritical_of_some (m := { m with phase := phase }) hexcluded hstart]

theorem optional_startCritical (m : Manager σ) (config : Config) :
    (m.startCritical config).2.optional = m.optional := by
  cases hexcluded : m.critical.excluded with
  | true => rw [startCritical_of_excluded hexcluded]
  | false =>
    cases hstart : (m.critical.start config).2 with
    | none => rw [startCritical_of_none hexcluded hstart]
    | some outcome => rw [startCritical_of_some hexcluded hstart]

end

/-! ## The other services -/

/-- The start of one service: how long it took and what came of it. -/
structure Started where
  name : String
  delay : Nat
  outcome : StartOutcome
  deriving Repr, DecidableEq

/-- The start of the service of a slot, if there is one. -/
def Started.ofSlot? (c : Config) (s : Slot σ) : Option Started :=
  (s.start c).2.map fun outcome => ⟨s.name, s.delay, outcome⟩

/-- Lines of the ledger about starts at the same time: first that all of them are under way, then
their outcomes in the order in which they come to an end, and last those that broke down. -/
def startRecords (starts : List Started) : List LedgerRecord :=
  let ended := (starts.filter (·.outcome.isOrderly)).mergeSort fun a b => decide (a.delay ≤ b.delay)
  let broken := starts.filter (!·.outcome.isOrderly)
  starts.map (fun s => ⟨s.name, .pending⟩) ++
    (ended ++ broken).map fun s => ⟨s.name, s.outcome.status⟩

/-- Starts the other services. -/
def startOptional (m : Manager σ) (c : Config) : Manager σ :=
  { m with
    optional := m.optional.map fun s => (s.start c).1
    ledger := m.ledger.recordAll (startRecords (m.optional.filterMap (Started.ofSlot? c))) }

/-! ## The whole -/

/-- The manager with the configuration in force and all services built. -/
def prepare (m : Manager σ) (c : Config) : Manager σ :=
  construct ({ m with disabled := .ofNames c.disabledTools }.applySelection
    c.disabledServices c.enabledServices)

/-- Starts the manager. It ends in a failure also where the critical service breaks down. -/
def start (m : Manager σ) (c : Config) : Except Error Unit × Manager σ :=
  if m.phase = .unstarted then
    match (m.prepare c).startCritical c with
    | (some message, m') =>
      (.error (.criticalService m.critical.name message), { m' with phase := .failed })
    | (none, m') => (.ok (), { m'.startOptional c with phase := .ready })
  else (.error (.alreadyInitialized m.phase.name), m)

end Switchboard.Manager
