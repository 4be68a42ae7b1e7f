import Switchboard.Json.Basic

/-!
# Ledger of service starts

What became of the attempt to start each service. Every record about a name replaces what was
recorded before, so the last word about a service counts.
-/

namespace Switchboard

/-- Outcome of one service's start, so far. -/
structure ServiceStatus where
  attempted : Bool
  succeeded : Bool
  error : Option String
  deriving Repr, DecidableEq

namespace ServiceStatus

/-- Under way. -/
def pending : ServiceStatus := ⟨true, false, none⟩

def success : ServiceStatus := ⟨true, true, none⟩

def failure (message : String) : ServiceStatus := ⟨true, false, some message⟩

def toJson (s : ServiceStatus) : Json :=
  .object ([("attempted", .bool s.attempted), ("succeeded", .bool s.succeeded)] ++
    match s.error with
    | some message => [("error", .string message)]
    | none => [])

end ServiceStatus

/-- The status of every service that was attempted. -/
structure Ledger where
  entries : NameMap ServiceStatus
  deriving Repr, DecidableEq

/-- One line of the ledger. -/
structure LedgerRecord where
  service : String
  status : ServiceStatus
  deriving Repr, DecidableEq

namespace Ledger

def empty : Ledger := ⟨NameMap.empty⟩

/-- Writes a line. -/
def record (l : Ledger) (r : LedgerRecord) : Ledger :=
  ⟨l.entries.insert r.service r.status⟩

def recordAttempt (l : Ledger) (service : String) : Ledger :=
  l.record ⟨service, .pending⟩

def recordSuccess (l : Ledger) (service : String) : Ledger :=
  l.record ⟨service, .success⟩

def recordFailure (l : Ledger) (service message : String) : Ledger :=
  l.record ⟨service, .failure message⟩

/-- Writes lines in turn. -/
def recordAll (l : Ledger) (rs : List LedgerRecord) : Ledger :=
  rs.foldl record l

def status? (l : Ledger) (service : String) : Option ServiceStatus :=
  l.entries.find? service

/-- Whether a service started. -/
def succeeded (l : Ledger) (service : String) : Bool :=
  match l.status? service with
  | some s => s.succeeded
  | none => false

/-- Why a service did not start. -/
def error? (l : Ledger) (service : String) : Option String :=
  (l.status? service).bind (·.error)

/-- How many services started, and how many were attempted and did not. -/
def counts (l : Ledger) : Nat × Nat :=
  let ok := l.entries.values.countP (·.succeeded)
  (ok, l.entries.size - ok)

@[simp] theorem status?_record (l : Ledger) (r : LedgerRecord) (service : String) :
    (l.record r).status? service = if r.service = service then some r.status else l.status? service :=
  NameMap.find?_insert l.entries r.service service r.status

end Ledger

end Switchboard
