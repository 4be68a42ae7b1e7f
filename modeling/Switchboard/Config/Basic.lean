import Switchboard.Json.Basic
import Switchboard.Listing.Page

/-!
# Configuration

Which services and tools to leave out, how to reach each backend, and how long a page is. The
notation of configuration files is read in `Switchboard.Config.Reader`; this module holds the
values, their defaults and their JSON form.
-/

namespace Switchboard

/-- How to authenticate with a backend. -/
inductive Credentials where
  | bearer (token : String)
  | basic (username password : String)
  deriving Repr, DecidableEq

/-- Connection settings of one backend. -/
structure BackendConfig where
  /-- Base address of the backend. -/
  url : Option String := none
  timeoutSecs : UInt64 := 30
  auth : Option Credentials := none
  /-- Sent with every request. -/
  headers : NameMap String := NameMap.empty
  /-- Accept certificates that nobody vouches for. -/
  insecureSkipVerify : Bool := false
  deriving Repr, DecidableEq

/-- Configuration of the whole process. -/
structure Config where
  /-- Services left out. -/
  disabledServices : List String := []
  /-- When not empty, every service that is not listed is left out. -/
  enabledServices : List String := []
  /-- Tools that are not offered. -/
  disabledTools : List String := []
  /-- Connection settings by service name. -/
  backends : NameMap BackendConfig := NameMap.empty
  /-- Page size of lists where the caller names none. -/
  defaultPageSize : UInt64 := 50
  deriving Repr, DecidableEq

/-- A backend at an address, with usual settings. -/
def BackendConfig.ofUrl (url : String) : BackendConfig := { url := some url }

namespace Config

/-- Connection settings of one service. -/
def backend? (c : Config) (service : String) : Option BackendConfig :=
  c.backends.find? service

/-! ## Building a configuration -/

/-- Leaves out one more service. -/
def disableService (c : Config) (name : String) : Config :=
  { c with disabledServices := c.disabledServices ++ [name] }

/-- Names one more service that is not left out. -/
def enableService (c : Config) (name : String) : Config :=
  { c with enabledServices := c.enabledServices ++ [name] }

/-- Leaves out one more tool. -/
def disableTool (c : Config) (name : String) : Config :=
  { c with disabledTools := c.disabledTools ++ [name] }

/-- Sets the connection settings of a service. -/
def withBackend (c : Config) (service : String) (settings : BackendConfig) : Config :=
  { c with backends := c.backends.insert service settings }

def withPageSize (c : Config) (size : UInt64) : Config :=
  { c with defaultPageSize := size }

end Config

/-! ## JSON form -/

def Credentials.toJson : Credentials → Json
  | .bearer token => .object [("type", .string "bearer"), ("token", .string token)]
  | .basic username password =>
    .object [("type", .string "basic"), ("username", .string username),
      ("password", .string password)]

def BackendConfig.toJson (b : BackendConfig) : Json :=
  .object [
    ("url", Json.ofText? b.url),
    ("timeout_secs", Json.ofNat b.timeoutSecs.toNat),
    ("auth", match b.auth with
      | some credentials => credentials.toJson
      | none => .null),
    ("headers", Json.ofMap .string b.headers),
    ("insecure_skip_verify", .bool b.insecureSkipVerify)]

def Config.toJson (c : Config) : Json :=
  .object [
    ("disabled_services", Json.ofTexts c.disabledServices),
    ("enabled_services", Json.ofTexts c.enabledServices),
    ("disabled_tools", Json.ofTexts c.disabledTools),
    ("backends", Json.ofMap BackendConfig.toJson c.backends),
    ("default_page_size", Json.ofNat c.defaultPageSize.toNat)]

end Switchboard
