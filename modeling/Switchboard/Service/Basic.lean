import Switchboard.Lifecycle
import Switchboard.Service.Endpoints
import Switchboard.Service.Script
import Switchboard.Service.Utilities

/-!
# Services

A service offers tools once it has been started. There are three kinds: those over the endpoints of
a backend, the utilities, and scripted ones.
-/

namespace Switchboard

/-- A service and its state. -/
inductive Service where
  | endpoints (service : EndpointService)
  | utilities (enabled : Bool)
  | scripted (script : Script) (enabled : Bool)
  deriving Repr

namespace Service

def name : Service → String
  | .endpoints s => s.name
  | .utilities _ => Utilities.serviceName
  | .scripted s _ => s.name

def isEnabled : Service → Bool
  | .endpoints s => s.isEnabled
  | .utilities enabled => enabled
  | .scripted _ enabled => enabled

def definitions : Service → List ToolDefinition
  | .endpoints s => s.definitions
  | .utilities enabled => if enabled then Utilities.definitions else []
  | .scripted s enabled => if enabled then s.definitions else []

def handlers : Service → NameMap Handler
  | .endpoints s => s.handlers
  | .utilities enabled => if enabled then Utilities.handlers else NameMap.empty
  | .scripted s enabled => if enabled then s.handlers else NameMap.empty

instance : Provider Service := ⟨name, isEnabled, definitions, handlers⟩

/-- The start of a scripted service. -/
def startScript (s : Script) (enabled : Bool) : StartOutcome × Service :=
  match s.breakdown, s.startError with
  | some .early, _ =>
    (.brokeDown (some (s.name ++ " blew up during initialization")), .scripted s enabled)
  | _, some message => (.failed (.of message), .scripted s enabled)
  | some .late, none => (.brokeDown (some "static text"), .scripted s true)
  | some .wordless, none => (.brokeDown none, .scripted s true)
  | none, none =>
    match s.lateStartError with
    | some failure => (.failed failure, .scripted s true)
    | none => (.started, .scripted s true)

/-- Starts a service. -/
def start (s : Service) (c : Config) : StartOutcome × Service :=
  match s with
  | .endpoints e =>
    match e.start c with
    | .ok e' => (.started, .endpoints e')
    | .error failure => (.failed failure, s)
  | .utilities _ => (.started, .utilities true)
  | .scripted script enabled => startScript script enabled

/-- How long the start takes. -/
def delay : Service → Nat
  | .scripted s _ => s.delay
  | _ => 0

/-- Whether there is anything to close. -/
def isCloseable : Service → Bool
  | .endpoints _ => true
  | .utilities _ => false
  | .scripted s _ => s.closeable || s.closeError.isSome

/-- Closes a service. -/
def close (s : Service) : Except Failure Unit × Service :=
  match s with
  | .endpoints e => (.ok (), .endpoints e.close)
  | .utilities _ => (.ok (), s)
  | .scripted script _ => (script.closeOutcome, s)

/-! ## A service stays what it is -/

/-- A scripted start changes at most whether the service is enabled. -/
theorem startScript_snd (s : Script) (enabled : Bool) :
    ∃ enabled', (startScript s enabled).2 = .scripted s enabled' := by
  unfold startScript
  split
  · exact ⟨enabled, rfl⟩
  · exact ⟨enabled, rfl⟩
  · exact ⟨true, rfl⟩
  · exact ⟨true, rfl⟩
  · split <;> exact ⟨true, rfl⟩

/-- A start changes a service over endpoints at most by connecting it. -/
theorem start_endpoints_snd (e : EndpointService) (c : Config) :
    ∃ connected, ((endpoints e).start c).2 = .endpoints { e with connected := connected } := by
  simp only [start]
  cases h : e.start c with
  | error failure => exact ⟨e.connected, rfl⟩
  | ok e' =>
    obtain ⟨-, connection, rfl⟩ := EndpointService.start_eq_ok h
    exact ⟨some connection, rfl⟩

theorem name_start (s : Service) (c : Config) : (s.start c).2.name = s.name := by
  cases s with
  | endpoints e =>
    obtain ⟨_, h⟩ := start_endpoints_snd e c
    rw [h]; rfl
  | utilities _ => rfl
  | scripted script enabled =>
    obtain ⟨_, h⟩ := startScript_snd script enabled
    simp only [start, h]; rfl

theorem isCloseable_start (s : Service) (c : Config) :
    (s.start c).2.isCloseable = s.isCloseable := by
  cases s with
  | endpoints e =>
    obtain ⟨_, h⟩ := start_endpoints_snd e c
    rw [h]; rfl
  | utilities _ => rfl
  | scripted script enabled =>
    obtain ⟨_, h⟩ := startScript_snd script enabled
    simp only [start, h]; rfl

theorem name_close (s : Service) : s.close.2.name = s.name := by
  cases s <;> rfl

instance : Lifecycle Service where
  start := start
  delay := delay
  isCloseable := isCloseable
  close := close
  name_start := name_start
  name_close := name_close
  isCloseable_start := isCloseable_start

end Service

end Switchboard
