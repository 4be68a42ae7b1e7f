import Switchboard.DisabledTools
import Switchboard.Registry
import Switchboard.Tool

/-!
# Registration

The tools of all enabled services are merged into one name space. Services take their turn by
ascending name, each with its definitions in order. A definition takes the handler of its name, and
is then passed over if its tool is disabled, refused if there was no handler to take, refused if an
earlier definition has the name, and entered otherwise. Handlers that no definition took are
reported at the end of a service's turn.

The merge knows nothing of what a handler is, so `registration` works for handlers of any type.
-/

namespace Switchboard

/-- What one service brings. -/
structure Offer (η : Type) where
  definitions : List ToolDefinition
  handlers : NameMap η

/-- The offer of a service. -/
def Offer.of {σ : Type} [Provider σ] (service : σ) : Offer Handler :=
  ⟨Provider.definitions service, Provider.handlers service⟩

/-- What does not fit when tools are merged. -/
inductive Defect where
  /-- Offered, and there is no handler. -/
  | orphaned (tool service : String)
  /-- There is a handler, and it is not offered. -/
  | unadvertised (tool service : String)
  /-- Another service has a tool of this name. -/
  | duplicate (tool service owner : String)
  deriving Repr, DecidableEq

namespace Defect

def text : Defect → String
  | .orphaned tool service =>
    "tool '" ++ tool ++ "' advertised by service '" ++ service ++ "' has no executor"
  | .unadvertised tool service =>
    "executor '" ++ tool ++ "' in service '" ++ service ++ "' has no advertised tool"
  | .duplicate tool service owner =>
    "tool '" ++ tool ++ "' from service '" ++ service ++
      "' is already provided by service '" ++ owner ++ "'"

def toJson : Defect → Json
  | .orphaned tool service =>
    .object [("kind", .string "orphaned"), ("tool", .string tool), ("service", .string service)]
  | .unadvertised tool service =>
    .object [("kind", .string "unadvertised"), ("tool", .string tool),
      ("service", .string service)]
  | .duplicate tool service owner =>
    .object [("kind", .string "duplicate"), ("tool", .string tool), ("service", .string service),
      ("owner", .string owner)]

end Defect

/-- Counts of a merge. -/
structure Summary where
  /-- Definitions looked at. -/
  seen : Nat := 0
  registered : Nat := 0
  skippedDisabled : Nat := 0
  orphaned : Nat := 0
  duplicates : Nat := 0
  unadvertised : Nat := 0
  deriving Repr, DecidableEq

def Summary.toJson (s : Summary) : Json :=
  .object [("seen", Json.ofNat s.seen), ("registered", Json.ofNat s.registered),
    ("skipped_disabled", Json.ofNat s.skippedDisabled), ("orphaned", Json.ofNat s.orphaned),
    ("duplicates", Json.ofNat s.duplicates), ("unadvertised", Json.ofNat s.unadvertised)]

/-- What a merge has come to. -/
structure Plan (η : Type) where
  /-- Tools to enter into the table, each name once. -/
  entries : List (ToolDefinition × η)
  defects : List Defect
  summary : Summary
  /-- Which service a name was entered for. -/
  owners : NameMap String

namespace Plan

variable {η : Type}

def empty : Plan η := ⟨[], [], {}, NameMap.empty⟩

/-- Passes over a disabled tool. -/
def skip (p : Plan η) : Plan η :=
  { p with summary :=
      { p.summary with
        seen := p.summary.seen + 1
        skippedDisabled := p.summary.skippedDisabled + 1 } }

/-- Refuses a definition without handler. -/
def refuseOrphan (p : Plan η) (tool service : String) : Plan η :=
  { p with
    defects := p.defects ++ [.orphaned tool service]
    summary :=
      { p.summary with seen := p.summary.seen + 1, orphaned := p.summary.orphaned + 1 } }

/-- Refuses a definition whose name is taken. -/
def refuseDuplicate (p : Plan η) (tool service owner : String) : Plan η :=
  { p with
    defects := p.defects ++ [.duplicate tool service owner]
    summary :=
      { p.summary with seen := p.summary.seen + 1, duplicates := p.summary.duplicates + 1 } }

/-- Enters a tool. -/
def enter (p : Plan η) (service : String) (definition : ToolDefinition) (handler : η) : Plan η :=
  { p with
    entries := p.entries ++ [(definition, handler)]
    owners := p.owners.insert definition.name service
    summary :=
      { p.summary with seen := p.summary.seen + 1, registered := p.summary.registered + 1 } }

/-- Reports a handler that is not offered. -/
def reportUnadvertised (service : String) (p : Plan η) (tool : String) : Plan η :=
  { p with
    defects := p.defects ++ [.unadvertised tool service]
    summary := { p.summary with unadvertised := p.summary.unadvertised + 1 } }

/-- Takes one definition with the handlers that are left; taking a handler leaves one less. -/
def take (disabled : DisabledTools) (service : String) (state : Plan η × NameMap η)
    (definition : ToolDefinition) : Plan η × NameMap η :=
  let (p, left) := state
  let name := definition.name
  let handler := left.find? name
  let left := left.erase name
  if disabled.contains name then (p.skip, left)
  else
    match handler with
    | none => (p.refuseOrphan name service, left)
    | some handler =>
      match p.owners.find? name with
      | some owner => (p.refuseDuplicate name service owner, left)
      | none => (p.enter service definition handler, left)

/-- The turn of one service. -/
def turn (disabled : DisabledTools) (p : Plan η) (service : String × Offer η) : Plan η :=
  let (name, offer) := service
  let (p, left) := offer.definitions.foldl (take disabled name) (p, offer.handlers)
  left.keys.foldl (reportUnadvertised name) p

end Plan

/-- Merges the offers of services. -/
def registration {η : Type} (disabled : DisabledTools) (offers : NameMap (Offer η)) : Plan η :=
  offers.entries.foldl (Plan.turn disabled) Plan.empty

end Switchboard
