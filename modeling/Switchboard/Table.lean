import Switchboard.Tool

/-!
# Dispatch table

The tools that can be called, by name, each with its definition and its handler. The table is
either added to, one tool at a time, or replaced as a whole. It counts, in 64-bit words, the calls
that reached a handler, those of them that failed, and how often it was replaced.

A call that finds its tool goes through `Table.call`, whatever comes of it; `Table.settle` is the
part of it after the handler is done.
-/

namespace Switchboard

/-- A tool that can be called. -/
structure Tool (η : Type) where
  definition : ToolDefinition
  handler : η

/-- Tools by name, and counts. -/
structure Table (η : Type) where
  tools : NameMap (Tool η)
  totalCalls : UInt64
  failedCalls : UInt64
  replacements : UInt64

/-- Counts of a table. -/
structure TableStats where
  registered : Nat
  totalCalls : UInt64
  failedCalls : UInt64
  replacements : UInt64
  deriving Repr, DecidableEq

namespace TableStats

def toJson (s : TableStats) : Json :=
  .object [("registered", Json.ofNat s.registered), ("total_calls", Json.ofNat s.totalCalls.toNat),
    ("failed_calls", Json.ofNat s.failedCalls.toNat),
    ("replacements", Json.ofNat s.replacements.toNat)]

/-- Reads counts. -/
def read? (v : Json) : Option TableStats := do
  match ← Document.record? ["registered", "total_calls", "failed_calls", "replacements"] v with
  | [registered, total, failed, replacements] =>
    let registered ← Document.required Document.word? registered
    let total ← Document.required Document.word? total
    let failed ← Document.required Document.word? failed
    let replacements ← Document.required Document.word? replacements
    some ⟨registered.toNat, total, failed, replacements⟩
  | _ => none

end TableStats

namespace Table

variable {η : Type}

def empty : Table η := ⟨NameMap.empty, 0, 0, 0⟩

instance : Inhabited (Table η) := ⟨empty⟩

/-- Adds a tool under the name of its definition, which must be free. -/
def register (t : Table η) (definition : ToolDefinition) (handler : η) : Except Error (Table η) :=
  match t.tools.find? definition.name with
  | some existing =>
    .error (.invalidArgument ("tool '" ++ definition.name ++ "' already registered by service '" ++
      existing.definition.service ++ "'"))
  | none => .ok { t with tools := t.tools.insert definition.name ⟨definition, handler⟩ }

/-- The tools of a listing by name; the first entry of a name wins. -/
def toolsOf (entries : List (ToolDefinition × η)) : NameMap (Tool η) :=
  NameMap.ofListFirst (entries.map fun e => (e.1.name, ⟨e.1, e.2⟩))

/-- Replaces all tools; says how many there are now. -/
def replaceAll (t : Table η) (entries : List (ToolDefinition × η)) : Nat × Table η :=
  let tools := toolsOf entries
  (tools.size, { t with tools := tools, replacements := t.replacements + 1 })

/-- The handler of a tool. -/
def handler? (t : Table η) (name : String) : Option η :=
  (t.tools.find? name).map (·.handler)

/-- The definition of a tool. -/
def definition? (t : Table η) (name : String) : Option ToolDefinition :=
  (t.tools.find? name).map (·.definition)

def contains (t : Table η) (name : String) : Bool := t.tools.contains name

/-- The definitions of all tools, by ascending name. -/
def list (t : Table η) : List ToolDefinition := t.tools.values.map (·.definition)

/-- The names of all tools, ascending. -/
def names (t : Table η) : List String := t.list.map (·.name)

def size (t : Table η) : Nat := t.tools.size

def stats (t : Table η) : TableStats :=
  ⟨t.size, t.totalCalls, t.failedCalls, t.replacements⟩

/-- Books the outcome of a handler. -/
def settle (t : Table η) (name : String) : Outcome → Except Error Json × Table η
  | .ok v => (.ok v, { t with totalCalls := t.totalCalls + 1 })
  | .error f =>
    (.error (.backend (name ++ ": " ++ f.text)),
      { t with totalCalls := t.totalCalls + 1, failedCalls := t.failedCalls + 1 })

/-- Calls a tool. -/
def call {m : Type → Type} [Monad m] (w : World m) (t : Table Handler) (name : String)
    (arguments : Json) : m (Except Error Json × Table Handler) :=
  match t.handler? name with
  | none => pure (.error (.notFound ("tool '" ++ name ++ "'")), t)
  | some handler => do
    let outcome ← (handler arguments).run w
    pure (t.settle name outcome)

end Table

end Switchboard
