import Switchboard.Config.Basic
import Switchboard.Document

/-!
# Reading configuration

A configuration from a document of any notation. Every field has a default; credentials are a
record whose first field, `type`, says which of the two kinds follows.
-/

namespace Switchboard

open Document

variable {δ : Type} [Document δ]

/-! ## Credentials -/

namespace Credentials

/-- The two kinds of credentials. -/
inductive Kind where
  | bearer
  | basic
  deriving Repr, DecidableEq

def Kind.named? : String → Option Kind
  | "bearer" => some .bearer
  | "basic" => some .basic
  | _ => none

/-- The fields of each kind, in order. -/
def Kind.fields : Kind → List String
  | .bearer => ["token"]
  | .basic => ["username", "password"]

/-- The credentials of a kind from the values of its fields. -/
def ofFields? : Kind → List (Option Atom) → Option Credentials
  | .bearer, [some (.text token)] => some (.bearer token)
  | .basic, [some (.text username), some (.text password)] => some (.basic username password)
  | _, _ => none

/-- The field that a name stands for: fields may also be named by position. -/
def fieldName? (kind : Kind) : Atom → Option String
  | .text name => some name
  | .index n => some ((kind.fields[n]?).getD "")
  | .other => none

/-- Splits a mapping into the node that tells the kind and the other members, taken as they
come. -/
def splitKind? : List (δ × δ) → Option (Option δ × List (Atom × Atom))
  | [] => some (none, [])
  | (name, d) :: rest => do
    let key ← atom? name
    let (kind, others) ← splitKind? rest
    if key = .text "type" then
      match kind with
      | some _ => none
      | none => some (some d, others)
    else
      let value ← atom? d
      some (kind, (key, value) :: others)

/-- Reads credentials: a mapping with a `type`, or a sequence that starts with it. -/
def read? (d : δ) : Option Credentials :=
  match shape? d with
  | some (.members entries) => do
    let (kind?, others) ← splitKind? entries
    let kind ← Kind.named? (← text? (← kind?))
    let named ← each? (fun e => (fieldName? kind e.1).map (·, e.2)) others
    ofFields? kind (← fields? kind.fields named)
  | some (.items (first :: rest)) => do
    let kind ← Kind.named? (← text? first)
    ofFields? kind ((← each? atom? rest).map some)
  | _ => none

end Credentials

/-! ## Records -/

/-- Reads the settings of a backend. -/
def BackendConfig.read? (d : δ) : Option BackendConfig := do
  match ← record? ["url", "timeout_secs", "auth", "headers", "insecure_skip_verify"] d with
  | [url, timeout, auth, headers, insecure] =>
    let url ← withDefault none (optional text?) url
    let timeout ← withDefault 30 word? timeout
    let auth ← withDefault none (optional Credentials.read?) auth
    let headers ← withDefault NameMap.empty (map? text?) headers
    let insecure ← withDefault false flag? insecure
    some ⟨url, timeout, auth, headers, insecure⟩
  | _ => none

/-- Reads a configuration. -/
def Config.read? (d : δ) : Option Config := do
  match ← record? ["disabled_services", "enabled_services", "disabled_tools", "backends",
      "default_page_size"] d with
  | [disabled, enabled, tools, backends, pageSize] =>
    let disabled ← withDefault [] (list? text?) disabled
    let enabled ← withDefault [] (list? text?) enabled
    let tools ← withDefault [] (list? text?) tools
    let backends ← withDefault NameMap.empty (map? BackendConfig.read?) backends
    let pageSize ← withDefault 50 word? pageSize
    some ⟨disabled, enabled, tools, backends, pageSize⟩
  | _ => none

/-- Reads a configuration from a JSON text. -/
def Config.readJson? (text : String) : Option Config :=
  (Json.Written.read? text.toList).bind fun w => Config.read? (Json.Placed.root w)

end Switchboard
