import Switchboard.Manager.Basic

/-!
# Shutting down

Every service that can be closed is closed once, in catalog order, whether or not closing another
one fails. The manager keeps the calls, and all failures are reported together.
-/

namespace Switchboard.Manager

variable {σ : Type} [Lifecycle σ]

/-! ## Calls -/

/-- Closes the service of a slot, and adds the call if there is one. -/
def closeSlot (calls : List ClosingCall) (s : Slot σ) : List ClosingCall × Slot σ :=
  match s.close with
  | (closed, some outcome) => (calls ++ [(s.name, outcome)], closed)
  | (closed, none) => (calls, closed)

/-- Closes the services of slots, one after the other. -/
def closeSlots (calls : List ClosingCall) : List (Slot σ) → List ClosingCall × List (Slot σ)
  | [] => (calls, [])
  | s :: rest =>
    let (calls, closed) := closeSlot calls s
    let (calls, rest) := closeSlots calls rest
    (calls, closed :: rest)

/-- What closing the service of a slot comes to, with its name. -/
def closing? (s : Slot σ) : Option ClosingCall :=
  s.close.2.map (s.name, ·)

theorem closeSlot_eq (calls : List ClosingCall) (s : Slot σ) :
    closeSlot calls s = (calls ++ (closing? s).toList, s.close.1) := by
  unfold closeSlot closing?
  split
  · next heq => simp [heq]
  · next heq => simp [heq]

theorem closeSlots_eq (calls : List ClosingCall) (slots : List (Slot σ)) :
    closeSlots calls slots = (calls ++ slots.filterMap closing?, slots.map (·.close.1)) := by
  induction slots generalizing calls with
  | nil => simp [closeSlots]
  | cons s rest ih =>
    simp only [closeSlots, closeSlot_eq, ih]
    cases h : closing? s <;> simp [h]

/-! ## Failures -/

/-- The failure of a closing, in words. -/
def closingFailure? : ClosingCall → Option String
  | (name, .error failure) => some (name ++ ": " ++ failure.text)
  | (_, .ok ()) => none

/-- What closing services comes to. -/
def shutdownResult (calls : List ClosingCall) : Except Error Unit :=
  let failures := calls.filterMap closingFailure?
  if failures.isEmpty then .ok ()
  else .error (.shutdown failures.length calls.length (String.intercalate "; " failures))

/-! ## The whole -/

/-- Closes all services, the first time it is called. -/
def shutdown (m : Manager σ) : Except Error Unit × Manager σ :=
  if m.shutDown then (.ok (), m)
  else
    let (calls, critical) := closeSlot [] m.critical
    let (calls, optional) := closeSlots calls m.optional
    (shutdownResult calls,
      { m with
        critical := critical
        optional := optional
        shutDown := true
        closings := m.closings ++ calls })

theorem shutdown_eq (m : Manager σ) :
    m.shutdown = if m.shutDown then (.ok (), m)
      else
        (shutdownResult (m.slots.filterMap closing?),
          { m.mapSlots (fun s => s.close.1) with
            shutDown := true
            closings := m.closings ++ m.slots.filterMap closing? }) := by
  have hcalls : m.slots.filterMap closing? =
      (closing? m.critical).toList ++ m.optional.filterMap closing? := by
    rw [slots, List.filterMap_cons]
    cases closing? m.critical <;> rfl
  simp only [shutdown, closeSlot_eq, closeSlots_eq, List.nil_append, hcalls]
  rfl

theorem slots_shutdown {m : Manager σ} (h : m.shutDown = false) :
    m.shutdown.2.slots = m.slots.map fun s => s.close.1 := by
  simp [shutdown_eq, h, mapSlots, slots]

end Switchboard.Manager
