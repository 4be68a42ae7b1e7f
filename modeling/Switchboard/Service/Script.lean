import Switchboard.Tool

/-!
# Scripted services

A service that does what its script says: it offers tools that repeat their arguments, and fails
where it is told to. It stands in for a real service wherever only the handling of services
matters.
-/

namespace Switchboard

/-- How the start of a scripted service breaks down instead of failing. -/
inductive Breakdown where
  /-- Before the service is enabled. -/
  | early
  /-- After it is enabled, with a text. -/
  | late
  /-- After it is enabled, with something that is no text. -/
  | wordless
  deriving Repr, DecidableEq

/-- What a scripted service does. -/
structure Script where
  name : String
  tools : List String := []
  /-- Tools that are offered and not carried out. -/
  missing : List String := []
  /-- Tools that are carried out and not offered. -/
  extra : List String := []
  /-- The start fails with this text. -/
  startError : Option String := none
  /-- The start fails after the service is enabled, with this chain of causes. -/
  lateStartError : Option Failure := none
  breakdown : Option Breakdown := none
  /-- How long the start takes. -/
  delay : Nat := 0
  closeable : Bool := false
  closeError : Option String := none
  lateCloseError : Option Failure := none
  /-- Put beside every result. -/
  tag : Option Json := none
  deriving Repr

namespace Script

/-- Repeats the arguments. -/
def echo (tool : String) : Handler := fun arguments =>
  .done (.ok (.object [("arguments", arguments), ("tool", .string tool)]))

/-- Carries out a tool, with the tag beside the result. -/
def handler (s : Script) (tool : String) : Handler := fun arguments =>
  match s.tag with
  | none => echo tool arguments
  | some tag => (echo tool arguments).map fun v => .object [("from", tag), ("value", v)]

def definitions (s : Script) : List ToolDefinition :=
  s.tools.map fun t => ⟨t, "stub tool", .object [("type", .string "object")], s.name⟩

def handlers (s : Script) : NameMap Handler :=
  NameMap.ofList ((s.tools.filter (!s.missing.contains ·) ++ s.extra).map fun t => (t, s.handler t))

/-- What closing comes to. -/
def closeOutcome (s : Script) : Except Failure Unit :=
  match s.closeError, s.lateCloseError with
  | some message, _ => .error (.of message)
  | none, some failure => .error failure
  | none, none => .ok ()

end Script

end Switchboard
