import Switchboard.DisabledTools
import Switchboard.Manager.Slot
import Switchboard.Registration
import Switchboard.Registry
import Switchboard.Selection
import Switchboard.Table

/-!
# The manager

The manager owns all services for the life of the process. Before it is started, services can be
left out; from then on the set of services is fixed. Which tools are offered can be changed at any
time.

This module holds the state and everything that reads it; starting is in
`Switchboard.Manager.Start`, shutting down in `Switchboard.Manager.Shutdown`.
-/

namespace Switchboard

/-- All services and what became of them. -/
structure Manager (σ : Type) where
  critical : Slot σ
  optional : List (Slot σ)
  ledger : Ledger
  disabled : DisabledTools
  phase : Phase
  /-- Whether the services have been closed. -/
  shutDown : Bool
  /-- The calls that were made to close services, in order. -/
  closings : List ClosingCall := []
  deriving Repr

/-- One line of the status report. -/
structure ServiceReport where
  name : String
  critical : Bool
  excluded : Bool
  enabled : Bool
  status : Option ServiceStatus
  deriving Repr, DecidableEq

def ServiceReport.toJson (r : ServiceReport) : Json :=
  .object ([("name", .string r.name), ("critical", .bool r.critical),
    ("excluded", .bool r.excluded), ("enabled", .bool r.enabled)] ++
    match r.status with
    | some status => [("status", status.toJson)]
    | none => [])

namespace Manager

variable {σ : Type}

/-- A manager of the services of a catalog, not started. -/
def ofCatalog (c : Catalog σ) : Manager σ :=
  { critical := .ofEntry c.critical
    optional := c.optional.map .ofEntry
    ledger := .empty
    disabled := .empty
    phase := .unstarted
    shutDown := false }

/-- All slots in catalog order. -/
def slots (m : Manager σ) : List (Slot σ) := m.critical :: m.optional

/-- The same change in every slot. -/
def mapSlots (m : Manager σ) (f : Slot σ → Slot σ) : Manager σ :=
  { m with critical := f m.critical, optional := m.optional.map f }

/-- Names of the services that are not left out, in catalog order. -/
def activeNames (m : Manager σ) : List String :=
  (m.slots.filter (!·.excluded)).map (·.name)

/-! ## Leaving out services -/

/-- Leaves out what two lists of names leave out. -/
def applySelection (m : Manager σ) (disabled enabled : List String) : Manager σ :=
  let excluded := excludedServices (m.slots.map (·.name)) disabled enabled
  m.mapSlots fun s => if excluded.contains s.name && !s.excluded then s.exclude else s

/-- Leaves out services, as long as the manager is not started. -/
def filterServices (m : Manager σ) (disabled enabled : List String) : Manager σ :=
  if m.phase = .unstarted then m.applySelection disabled enabled else m

/-! ## Services and tools -/

/-- The services that were built. -/
def registry (m : Manager σ) : Registry σ :=
  ⟨m.slots.filterMap (·.service)⟩

/-- Names of the enabled services, ascending. -/
def enabledNames [Provider σ] (m : Manager σ) : List String := m.registry.enabled.keys

/-- How the tools of the enabled services merge. -/
def plan [Provider σ] (m : Manager σ) : Plan Handler :=
  registration m.disabled (m.registry.enabled.map Offer.of)

/-- Enters all tools that can be entered into a table, in place of all that are there. -/
def registerTools [Provider σ] (m : Manager σ) (t : Table Handler) : Summary × Table Handler :=
  (m.plan.summary, (t.replaceAll m.plan.entries).2)

/-- What does not fit. -/
def defects [Provider σ] (m : Manager σ) : List Defect := m.plan.defects

/-- Whether everything fits, and what does not, in words. -/
def verify [Provider σ] (m : Manager σ) : Bool × List String :=
  let texts := m.defects.map Defect.text
  (texts.isEmpty, texts)

/-- Stops offering a tool; says whether that is a change. -/
def disableTool (m : Manager σ) (name : String) : Bool × Manager σ :=
  let (changed, disabled) := m.disabled.disable name
  (changed, { m with disabled := disabled })

/-- Offers a tool again; says whether that is a change. -/
def enableTool (m : Manager σ) (name : String) : Bool × Manager σ :=
  let (changed, disabled) := m.disabled.enable name
  (changed, { m with disabled := disabled })

/-- Replaces the set of tools that are not offered. -/
def replaceDisabled (m : Manager σ) (names : List String) : Manager σ :=
  { m with disabled := .ofNames names }

/-! ## Status -/

/-- The line about one service. -/
def reportOf [Provider σ] (m : Manager σ) (critical : Bool) (s : Slot σ) : ServiceReport :=
  ⟨s.name, critical, s.excluded, s.isEnabled, m.ledger.status? s.name⟩

/-- One line for each known service, in catalog order. -/
def report [Provider σ] (m : Manager σ) : List ServiceReport :=
  m.reportOf true m.critical :: m.optional.map (m.reportOf false)

end Manager

end Switchboard
