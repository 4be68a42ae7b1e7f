import Switchboard.Tool

/-!
# Registry of services

All services that were built, in the order in which they were registered. A name is expected to be
registered once, but nothing depends on it: a look-up finds the first service of a name, and of the
enabled ones of a name the last counts.
-/

namespace Switchboard

/-- Registered services. -/
structure Registry (σ : Type) where
  services : List σ
  deriving Repr

namespace Registry

variable {σ : Type} [Provider σ]

def empty : Registry σ := ⟨[]⟩

/-- Adds a service at the end. -/
def register (r : Registry σ) (service : σ) : Registry σ := ⟨r.services ++ [service]⟩

/-- The first service of a name. -/
def find? (r : Registry σ) (name : String) : Option σ :=
  r.services.find? fun s => Provider.name s == name

/-- The enabled services by name. -/
def enabled (r : Registry σ) : NameMap σ :=
  NameMap.ofList ((r.services.filter Provider.isEnabled).map fun s => (Provider.name s, s))

/-- All definitions on offer. -/
def definitions (r : Registry σ) : List ToolDefinition :=
  r.services.flatMap Provider.definitions

/-- All handlers; of several for one tool that of the first service. -/
def handlers (r : Registry σ) : NameMap Handler :=
  NameMap.ofListFirst (r.services.flatMap fun s => (Provider.handlers s).entries)

end Registry

end Switchboard
