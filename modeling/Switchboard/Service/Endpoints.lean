import Switchboard.Backend.Basic
import Switchboard.Endpoint.Basic

/-!
# Services over endpoints

A service that offers the endpoints of one backend. It connects once: a start that fails leaves it
as it was, a start after a successful one fails. Closing is for good, and a closed service offers
nothing.
-/

namespace Switchboard

/-- What a successful start has fixed. -/
structure Connection where
  backend : Backend
  /-- Page size where the caller names none. -/
  pageSize : Nat
  deriving Repr, DecidableEq

/-- A table of endpoints of one backend. -/
structure EndpointService where
  name : String
  endpoints : List Endpoint
  /-- Whose settings are used where this service has none. -/
  fallback : Option String := none
  connected : Option Connection := none
  closed : Bool := false
  deriving Repr, DecidableEq

namespace EndpointService

/-- The settings that apply to the service. -/
def settings? (s : EndpointService) (c : Config) : Option BackendConfig :=
  match c.backend? s.name with
  | some settings => some settings
  | none => s.fallback.bind c.backend?

/-- Connects the service. -/
def start (s : EndpointService) (c : Config) : Except Failure EndpointService :=
  match s.connected with
  | some _ => .error (.of ("service '" ++ s.name ++ "' is already initialized"))
  | none =>
    match Backend.connect s.name (s.settings? c) with
    | .ok backend => .ok { s with connected := some ⟨backend, c.defaultPageSize.toNat⟩ }
    | .error e => .error (e.failure s.name)

/-- A start that succeeds connects a service that was not connected, and does nothing else. -/
theorem start_eq_ok {s s' : EndpointService} {c : Config} (h : s.start c = .ok s') :
    s.connected = none ∧ ∃ connection, s' = { s with connected := some connection } := by
  unfold start at h
  split at h
  · cases h
  · next hnone =>
    split at h
    · next backend _ => exact ⟨hnone, _, (Except.ok.inj h).symm⟩
    · cases h

/-- Closes the service. -/
def close (s : EndpointService) : EndpointService := { s with closed := true }

/-- The connection in use. -/
def connection? (s : EndpointService) : Option Connection :=
  if s.closed then none else s.connected

def isEnabled (s : EndpointService) : Bool := s.connection?.isSome

/-- One definition for each endpoint. -/
def definitions (s : EndpointService) : List ToolDefinition :=
  if s.isEnabled then
    s.endpoints.map fun e => ⟨e.tool, e.description, e.inputSchema, s.name⟩
  else []

/-- Carries out an endpoint: one request, unless the path cannot be made from the arguments or joined
to the address of the backend. If the client refuses to send it, that is a failed request. -/
def handler (c : Connection) (e : Endpoint) : Handler := fun arguments =>
  match e.renderPath arguments with
  | .error error => .done (.error error.failure)
  | .ok path =>
    match c.backend.request path (e.renderQuery arguments) with
    | .error failure => .done (.error failure)
    | .ok (address, request) =>
      .fetch request fun reply => do
        e.shape (← c.backend.document address reply) arguments c.pageSize

/-- One handler for each tool name; of several endpoints with one name the last one. -/
def handlers (s : EndpointService) : NameMap Handler :=
  match s.connection? with
  | none => NameMap.empty
  | some c => NameMap.ofList (s.endpoints.map fun e => (e.tool, handler c e))

end EndpointService

end Switchboard
