import Switchboard.Document
import Switchboard.Error
import Switchboard.Http.Exchange

/-!
# Tools

A tool is offered by a definition and carried out by a handler. The two are kept apart, because a
service may offer what it cannot carry out, and the other way round.

A handler turns arguments into an `Exchange`: the result, or the one thing it needs from outside
before there is a result. Outside is a `World`; so what a tool does with an answer can be followed
without any outside at all.
-/

namespace Switchboard

/-- How a tool is offered. -/
structure ToolDefinition where
  name : String
  description : String
  /-- JSON schema of the arguments. -/
  inputSchema : Json
  /-- The service that offers the tool. -/
  service : String
  deriving Repr

namespace ToolDefinition

def toJson (d : ToolDefinition) : Json :=
  .object [("name", .string d.name), ("description", .string d.description),
    ("input_schema", d.inputSchema), ("service", .string d.service)]

/-- Reads a definition; the schema may be any value but has to be there. -/
def read? (v : Json) : Option ToolDefinition := do
  match ← Document.record? ["name", "description", "input_schema", "service"] v with
  | [name, description, schema, service] =>
    let name ← Document.required Document.text? name
    let description ← Document.required Document.text? description
    let schema ← schema
    let service ← Document.required Document.text? service
    some ⟨name, description, schema, service⟩
  | _ => none

end ToolDefinition

/-! ## Carrying out -/

/-- Outcome of a call. -/
abbrev Outcome := Except Failure Json

/-- What carrying out a tool comes to: at most one thing is needed from outside. -/
inductive Exchange where
  | done (outcome : Outcome)
  /-- A request to a backend, if the client does not refuse to send it. -/
  | fetch (request : Http.Request) (finish : Http.Reply → Outcome)
  /-- The time, in seconds since the start of 1970. -/
  | clock (finish : Nat → Json)
  /-- Some time to pass. -/
  | pause (seconds : Float) (result : Json)

/-- Carries out one tool. -/
abbrev Handler := Json → Exchange

/-- What there is outside. -/
structure World (m : Type → Type) where
  fetch : Http.Request → m Http.Reply
  now : m Nat
  pause : Float → m Unit

namespace Exchange

/-- The same with another form of the result. -/
def map (f : Json → Json) : Exchange → Exchange
  | .done outcome => .done (outcome.map f)
  | .fetch request finish => .fetch request fun reply => (finish reply).map f
  | .clock finish => .clock fun seconds => f (finish seconds)
  | .pause seconds result => .pause seconds (f result)

/-- Gets what is needed and finishes. A request that the client refuses does not get outside. -/
def run {m : Type → Type} [Monad m] (w : World m) : Exchange → m Outcome
  | .done outcome => pure outcome
  | .fetch request finish =>
    match request.refusal? with
    | some reason => pure (finish (.refused reason))
    | none => do pure (finish (← w.fetch request))
  | .clock finish => do pure (.ok (finish (← w.now)))
  | .pause seconds result => do
    w.pause seconds
    pure (.ok result)

end Exchange

/-! ## Offering -/

/-- What can be asked of anything that offers tools. A provider that is not enabled offers nothing
and carries out nothing. -/
class Provider (σ : Type) where
  name : σ → String
  isEnabled : σ → Bool
  definitions : σ → List ToolDefinition
  handlers : σ → NameMap Handler

end Switchboard
