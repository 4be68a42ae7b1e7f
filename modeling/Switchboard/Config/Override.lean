import Switchboard.Config.Basic
import Switchboard.Text.Upper

/-!
# Overrides from the environment

Values of the environment replace values of the configuration: three lists, and per service the
address, the token and the timeout of its backend. A blank value counts as none. An override for a
backend without settings makes settings with defaults, except that a timeout that is no number
does nothing at all.
-/

namespace Switchboard

/-- In front of every name that is looked up. -/
def environmentLabel : String := "OPSBRIDGE_"

/-- The pieces between commas without the blanks around them; empty pieces are dropped. -/
def splitNames (value : String) : List String :=
  ((Text.splitAt ',' value.toList).map fun piece => String.ofList (Text.trim piece)).filter
    fun name => name != ""

/-- A value that is there and not blank. -/
def given? (lookup : String → Option String) (key : String) : Option String :=
  (lookup key).filter fun value => !Text.blank value

/-- In front of the names that concern one service. -/
def serviceLabel (service : String) : String :=
  environmentLabel ++ Text.upper service

namespace Config

/-- Changes the settings of a backend, starting from the defaults where there are none. -/
def updateBackend (c : Config) (service : String) (f : BackendConfig → BackendConfig) : Config :=
  { c with backends := c.backends.insert service (f ((c.backend? service).getD {})) }

/-- What an override changes in the settings of a backend. -/
def overrideUrl (lookup : String → Option String) (c : Config) (service : String) : Config :=
  match given? lookup (serviceLabel service ++ "_URL") with
  | some url => c.updateBackend service fun b => { b with url := some url }
  | none => c

@[inherit_doc overrideUrl]
def overrideToken (lookup : String → Option String) (c : Config) (service : String) : Config :=
  match given? lookup (serviceLabel service ++ "_TOKEN") with
  | some token => c.updateBackend service fun b => { b with auth := some (.bearer token) }
  | none => c

/-- The timeout that a value stands for. -/
def timeout? (value : String) : Option UInt64 :=
  (Decimal.readWord? (Text.trim value.toList)).map Nat.toUInt64

@[inherit_doc overrideUrl]
def overrideTimeout (lookup : String → Option String) (c : Config) (service : String) : Config :=
  match (given? lookup (serviceLabel service ++ "_TIMEOUT_SECS")).bind timeout? with
  | some secs => c.updateBackend service fun b => { b with timeoutSecs := secs }
  | none => c

/-- Applies the overrides for one service. -/
def overrideService (lookup : String → Option String) (c : Config) (service : String) : Config :=
  overrideTimeout lookup (overrideToken lookup (overrideUrl lookup c service) service) service

/-- Replaces the three lists. -/
def overrideLists (lookup : String → Option String) (c : Config) : Config :=
  let list (key : String) (old : List String) : List String :=
    match given? lookup (environmentLabel ++ key) with
    | some value => splitNames value
    | none => old
  { c with
    disabledServices := list "DISABLED_SERVICES" c.disabledServices
    enabledServices := list "ENABLED_SERVICES" c.enabledServices
    disabledTools := list "DISABLED_TOOLS" c.disabledTools }

/-- The names that the overrides for some services look up. -/
def overrideNames (services : List String) : List String :=
  ["DISABLED_SERVICES", "ENABLED_SERVICES", "DISABLED_TOOLS"].map (environmentLabel ++ ·) ++
    services.flatMap fun s => ["_URL", "_TOKEN", "_TIMEOUT_SECS"].map (serviceLabel s ++ ·)

/-- Applies all overrides that a lookup gives, for the named services in turn. -/
def override (c : Config) (services : List String) (lookup : String → Option String) : Config :=
  services.foldl (overrideService lookup) (c.overrideLists lookup)

end Config

end Switchboard
