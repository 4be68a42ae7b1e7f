import Switchboard.Catalog
import Switchboard.Ledger
import Switchboard.Lifecycle

/-!
# Slots

The place of one catalog entry in a manager: whether it is left out, the service to build, the
service once it is built, and how often it was built, started and closed.
-/

namespace Switchboard

/-- How often a service was built, started and closed. -/
structure Calls where
  constructed : Nat := 0
  started : Nat := 0
  closed : Nat := 0
  deriving Repr, DecidableEq

/-- A call to close a service: the name of its slot, and what came of the call. -/
abbrev ClosingCall := String × Except Failure Unit

/-- The place of a catalog entry. -/
structure Slot (σ : Type) where
  name : String
  excluded : Bool
  /-- The service to build; gone once it is built or left out. -/
  blueprint : Option σ
  /-- The service that was built and goes by the right name. -/
  service : Option σ
  calls : Calls
  deriving Repr

namespace Slot

variable {σ : Type}

def ofEntry (e : CatalogEntry σ) : Slot σ := ⟨e.name, false, some e.service, none, {}⟩

/-- Leaves the service out for good. -/
def exclude (s : Slot σ) : Slot σ := { s with excluded := true, blueprint := none }

/-- Builds the service, if there is one to build. A service that goes by another name than its
entry is not kept, because all accounts go by one name; the second component says why. -/
def construct [Provider σ] (s : Slot σ) : Slot σ × Option String :=
  match s.blueprint with
  | none => (s, none)
  | some service =>
    let built :=
      { s with blueprint := none, calls := { s.calls with constructed := s.calls.constructed + 1 } }
    if Provider.name service = s.name then ({ built with service := some service }, none)
    else
      (built, some ("service reports name '" ++ Provider.name service ++ "' but is catalogued as '" ++
        s.name ++ "'"))

@[simp] theorem blueprint_construct [Provider σ] (s : Slot σ) : s.construct.1.blueprint = none := by
  cases hs : s.blueprint with
  | none => simp [construct, hs]
  | some service =>
    simp only [construct, hs]
    split <;> rfl

/-- Starts the service, if there is one. -/
def start [Lifecycle σ] (c : Config) (s : Slot σ) : Slot σ × Option StartOutcome :=
  match s.service with
  | none => (s, none)
  | some service =>
    let (outcome, service) := Lifecycle.start service c
    ({ s with
        service := some service
        calls := { s.calls with started := s.calls.started + 1 } }, some outcome)

@[simp] theorem name_start [Lifecycle σ] (c : Config) (s : Slot σ) :
    (s.start c).1.name = s.name := by
  unfold start
  split <;> rfl

@[simp] theorem excluded_start [Lifecycle σ] (c : Config) (s : Slot σ) :
    (s.start c).1.excluded = s.excluded := by
  unfold start
  split <;> rfl

/-- Closes the service, if there is one and it can be closed. -/
def close [Lifecycle σ] (s : Slot σ) : Slot σ × Option (Except Failure Unit) :=
  match s.service with
  | none => (s, none)
  | some service =>
    if Lifecycle.isCloseable service then
      let (outcome, service) := Lifecycle.close service
      ({ s with
          service := some service
          calls := { s.calls with closed := s.calls.closed + 1 } }, some outcome)
    else (s, none)

@[simp] theorem name_close [Lifecycle σ] (s : Slot σ) : s.close.1.name = s.name := by
  unfold close
  split
  · rfl
  · split <;> rfl

@[simp] theorem excluded_close [Lifecycle σ] (s : Slot σ) : s.close.1.excluded = s.excluded := by
  unfold close
  split
  · rfl
  · split <;> rfl

def isEnabled [Provider σ] (s : Slot σ) : Bool :=
  match s.service with
  | some service => Provider.isEnabled service
  | none => false

/-- How long the start takes. -/
def delay [Lifecycle σ] (s : Slot σ) : Nat :=
  match s.service with
  | some service => Lifecycle.delay service
  | none => 0

end Slot

/-- What became of a start, for the ledger. -/
def StartOutcome.status : StartOutcome → ServiceStatus
  | .started => .success
  | .failed failure => .failure failure.text
  | .brokeDown text =>
    .failure ("panicked during initialization: " ++ text.getD "non-string panic payload")

/-- Whether a start came to its end. -/
def StartOutcome.isOrderly : StartOutcome → Bool
  | .brokeDown _ => false
  | _ => true

end Switchboard
