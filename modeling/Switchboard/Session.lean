import Switchboard.Endpoint.Basic
import Switchboard.Json.Text
import Switchboard.Manager.Basic
import Switchboard.Text.Utf8

/-!
# Sessions

A session answers requests, one to a line, against a manager and the table of its tools. Every line
that is not blank gets exactly one answer, with the identifier of its request. Six tool names are
reserved for questions about the table itself; all others are looked up in the table.

Main definitions: `Session.handle` for one request, `Session.answer` for one line, and
`Session.answerAll` for a whole input.
-/

namespace Switchboard

/-- A call of a tool. -/
structure Request where
  id : Json
  tool : String
  arguments : Json
  deriving Repr

/-- Reads a request; identifier and arguments may be left out. -/
def Request.read? (text : String) : Option Request := do
  let w ← Json.Written.read? text.toList
  let value (d : Json.Placed) : Option Json := d.node.value? d.room
  match ← Document.record? ["id", "tool", "arguments"] (Json.Placed.root w) with
  | [id, tool, arguments] =>
    let id ← Document.withDefault .null value id
    let tool ← Document.required Document.text? tool
    let arguments ← Document.withDefault .null value arguments
    some ⟨id, tool, arguments⟩
  | _ => none

/-- An answer, with the identifier of its request. -/
structure Response where
  id : Json
  result : Except String Json

/-- An answer as an object with the result or the error. -/
def Response.toJson (r : Response) : Json :=
  .object [("id", r.id),
    match r.result with
    | .ok v => ("result", v)
    | .error message => ("error", .string message)]

/-- An answer as a line of the output. -/
def Response.line (r : Response) : String := r.toJson.toText ++ "\n"

/-- A manager, the table of its tools, and the page size where the caller names none. -/
structure Session (σ : Type) where
  manager : Manager σ
  table : Table Handler
  pageSize : Nat

namespace Session

/-! ## Reserved names -/

/-- Tool names that the session answers by itself. -/
inductive Reserved where
  | list
  | disable
  | enable
  | listDisabled
  | stats
  | services
  deriving Repr, DecidableEq

def Reserved.named? : String → Option Reserved
  | "tools/list" => some .list
  | "tools/disable" => some .disable
  | "tools/enable" => some .enable
  | "tools/disabled" => some .listDisabled
  | "tools/stats" => some .stats
  | "services/status" => some .services
  | _ => none

variable {σ : Type}

/-- One page of the tools in the table. -/
def listTools (s : Session σ) (arguments : Json) : Json :=
  (paginate s.table.list (pageCursor arguments) (pageLimit arguments s.pageSize)).toJson
    fun d => d.toJson.sorted

variable [Provider σ]

/-- Changes whether a tool is offered, and enters the tools into the table afresh. -/
def toggle (s : Session σ) (change : String → Bool × Manager σ) (arguments : Json) :
    Except String Json × Session σ :=
  match (arguments.get? "name").bind Json.asString? with
  | none => (.error "missing required argument 'name'", s)
  | some name =>
    let (changed, manager) := change name
    let (summary, table) := manager.registerTools s.table
    (.ok (.object [("changed", .bool changed), ("registered", Json.ofNat summary.registered)]),
      { s with manager := manager, table := table })

/-- Answers a reserved name. -/
def handleReserved (s : Session σ) (arguments : Json) : Reserved → Except String Json × Session σ
  | .list => (.ok (s.listTools arguments), s)
  | .disable => s.toggle s.manager.disableTool arguments
  | .enable => s.toggle s.manager.enableTool arguments
  | .listDisabled => (.ok (Json.ofTexts s.manager.disabled.toList), s)
  | .stats => (.ok s.table.stats.toJson.sorted, s)
  | .services => (.ok (Json.array (s.manager.report.map (·.toJson))).sorted, s)

/-! ## Requests -/

variable {m : Type → Type} [Monad m]

/-- Answers a request. -/
def handle (w : World m) (s : Session σ) (r : Request) : m (Response × Session σ) :=
  match Reserved.named? r.tool with
  | some reserved =>
    let (result, s) := s.handleReserved r.arguments reserved
    pure (⟨r.id, result⟩, s)
  | none => do
    let (result, table) ← s.table.call w r.tool r.arguments
    pure (⟨r.id, result.mapError Error.message⟩, { s with table := table })

/-- The answer to a line that is no request. -/
def malformed : Response := ⟨.null, .error "malformed request: the line is no request"⟩

/-- Answers a line; a blank line gets no answer. -/
def answer (w : World m) (s : Session σ) (line : String) : m (Option Response × Session σ) :=
  let text := Text.trimmed line
  if text = "" then pure (none, s)
  else
    match Request.read? text with
    | none => pure (some malformed, s)
    | some request => do
      let (response, s) ← s.handle w request
      pure (some response, s)

/-! ## Input and output -/

/-- How an input comes to its end. -/
inductive Ending where
  | complete
  /-- A line is no text. -/
  | unreadable
  deriving Repr, DecidableEq

/-- The lines of an input; a line break at the end starts no further line. -/
def lines (input : List UInt8) : List (List UInt8) :=
  let pieces := input.splitOn 10
  if pieces.getLast? = some [] then pieces.dropLast else pieces

/-- Answers lines in turn, up to one that is no text. -/
def answerAll (w : World m) (s : Session σ) : List (List UInt8) →
    m (List Response × Ending × Session σ)
  | [] => pure ([], .complete, s)
  | line :: rest =>
    match Text.Utf8.decode? line with
    | none => pure ([], .unreadable, s)
    | some cs => do
      let (response, s) ← s.answer w (String.ofList cs)
      let (responses, ending, s) ← answerAll w s rest
      pure (response.toList ++ responses, ending, s)

/-- The output for answers. -/
def written (responses : List Response) : String :=
  String.join (responses.map Response.line)

end Session

end Switchboard
