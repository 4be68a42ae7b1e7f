/-!
# Errors of the public interface

Each error carries its cause; `Error.message` is the one place that words it.
-/

namespace Switchboard

/-- Life of a manager: set up, starting, and then ready or failed for good. -/
inductive Phase where
  | unstarted
  | initializing
  | ready
  | failed
  deriving Repr, DecidableEq, Inhabited

def Phase.name : Phase → String
  | .unstarted => "unstarted"
  | .initializing => "initializing"
  | .ready => "ready"
  | .failed => "failed"

/-- What can go wrong in a call of the public interface. -/
inductive Error where
  /-- The critical service cannot be used, so nothing can. -/
  | criticalService (name message : String)
  /-- The manager had been started before. -/
  | alreadyInitialized (state : String)
  /-- Some services did not close. -/
  | shutdown (failed attempted : Nat) (details : String)
  | config (message : String)
  | backend (message : String)
  | io (message : String)
  | notFound (message : String)
  | invalidArgument (message : String)
  | internal (message : String)
  deriving Repr, DecidableEq

/-- The text of an error. -/
def Error.message : Error → String
  | .criticalService name message =>
    "Critical service '" ++ name ++ "' failed to initialize: " ++ message
  | .alreadyInitialized state => "Service manager already initialized (state: " ++ state ++ ")"
  | .shutdown failed attempted details =>
    toString failed ++ " of " ++ toString attempted ++ " services failed to close: " ++ details
  | .config message => "Configuration error: " ++ message
  | .backend message => "Backend error: " ++ message
  | .io message => "IO error: " ++ message
  | .notFound message => "Not found: " ++ message
  | .invalidArgument message => "Invalid argument: " ++ message
  | .internal message => "Internal error: " ++ message

/-- A chain of causes in one line, the outermost first. -/
def chainText (causes : List String) : String :=
  String.intercalate ": " causes

/-- Why a tool or a service did not do its job: a chain of causes, the outermost first. -/
structure Failure where
  causes : List String
  deriving Repr, DecidableEq

/-- The failure with a single cause. -/
def Failure.of (cause : String) : Failure := ⟨[cause]⟩

/-- The failure seen from further outside. -/
def Failure.within (cause : String) (f : Failure) : Failure := ⟨cause :: f.causes⟩

/-- The chain in one line. -/
def Failure.text (f : Failure) : String := chainText f.causes

/-- A failure as an error of the public interface. -/
def Error.ofFailure (f : Failure) : Error :=
  .internal f.text

end Switchboard
