import Switchboard.Json.Written

/-!
# Structured documents

What the notations for configuration files and requests have in common: mappings, sequences and
scalars. A type of nodes that answers these questions is a `Document`, and everything that is read
from documents (records, maps and lists of fields) is read by the functions here, whatever the
notation.

A record may be written as a mapping, where unknown names are passed over and a known name may
stand only once, or as a sequence of its fields in order, where fields at the end may be left off.
-/

namespace Switchboard

/-- The form of a node. -/
inductive Shape (δ : Type) where
  /-- A mapping, with names that are nodes themselves. -/
  | members (entries : List (δ × δ))
  | items (nodes : List δ)
  /-- Nothing written where a value could stand: an empty list or a record of defaults. -/
  | nothing
  | scalar
  deriving Repr

/-- A value taken as it comes, without knowing what it is read into. -/
inductive Atom where
  | text (value : String)
  | index (value : Nat)
  | other
  deriving Repr, DecidableEq

/-- Nodes of a notation for documents. -/
class Document (δ : Type) where
  /-- The form of a node, `none` for one that is nested too deeply. -/
  shape? : δ → Option (Shape δ)
  /-- The text of a node that is read into a text. -/
  text? : δ → Option String
  /-- An unsigned number of 64 bits. -/
  word? : δ → Option UInt64
  flag? : δ → Option Bool
  /-- Whether a node stands for no value where a value may be left out; `none` for one that is
  marked as no value and has one. -/
  absent? : δ → Option Bool
  /-- The node as it comes, `none` if something inside makes no sense. -/
  atom? : δ → Option Atom

namespace Document

variable {δ α : Type} [Document δ]

/-- Reads every node of a list. -/
def each? (read : δ → Option α) : List δ → Option (List α)
  | [] => some []
  | d :: ds => do
    let x ← read d
    let xs ← each? read ds
    some (x :: xs)

/-- Reads a sequence. -/
def list? (read : δ → Option α) (d : δ) : Option (List α) :=
  match shape? d with
  | some (.items nodes) => each? read nodes
  | some .nothing => some []
  | _ => none

/-- A mapping whose names are texts. -/
def named? (entries : List (δ × δ)) : Option (List (String × δ)) :=
  match entries with
  | [] => some []
  | (name, d) :: rest => do
    let key ← text? name
    let named ← named? rest
    some ((key, d) :: named)

/-- Reads a mapping from names; the last value of a name stays. -/
def map? (read : δ → Option α) (d : δ) : Option (NameMap α) :=
  match shape? d with
  | some (.members entries) => do
    let named ← named? entries
    let values ← each? (fun e => (read e.2).map (e.1, ·)) named
    some (NameMap.ofList values)
  | some .nothing => some NameMap.empty
  | _ => none
where
  each? (read : String × δ → Option (String × α)) :
      List (String × δ) → Option (List (String × α))
    | [] => some []
    | e :: es => do
      let x ← read e
      let xs ← each? read es
      some (x :: xs)

/-- The one value of a field among named values: `none` where the name stands twice. -/
def field? (named : List (String × α)) (name : String) : Option (Option α) :=
  match named.filter (fun e => e.1 == name) with
  | [] => some none
  | [e] => some (some e.2)
  | _ => none

/-- The values of all fields of a record, by the order of the fields. -/
def fields? (names : List String) (named : List (String × α)) : Option (List (Option α)) :=
  match names with
  | [] => some []
  | name :: rest => do
    let x ← field? named name
    let xs ← fields? rest named
    some (x :: xs)

/-- The fields of a record, each with its node if it is written. -/
def record? (names : List String) (d : δ) : Option (List (Option δ)) :=
  match shape? d with
  | some (.members entries) => (named? entries).bind (fields? names)
  | some (.items nodes) =>
    if nodes.length ≤ names.length then
      some (nodes.map some ++ List.replicate (names.length - nodes.length) none)
    else none
  | some .nothing => some (names.map fun _ => none)
  | _ => none

/-- Reads a field that has a default. -/
def withDefault (default : α) (read : δ → Option α) : Option δ → Option α
  | none => some default
  | some d => read d

/-- Reads a field that has to be there. -/
def required (read : δ → Option α) : Option δ → Option α
  | none => none
  | some d => read d

/-- Reads a value that may be absent. -/
def optional (read : δ → Option α) (d : δ) : Option (Option α) :=
  match absent? d with
  | some true => some none
  | some false => (read d).map some
  | none => none

end Document

/-! ## JSON as documents -/

namespace Json

/-- A node of a JSON text, with the room for nesting that is left at its place. -/
structure Placed where
  room : Nat
  node : Written
  deriving Repr

/-- The whole text at its place. -/
def Placed.root (w : Written) : Placed := ⟨maxNesting, w⟩

/-- The unsigned number that a numeral stands for, if it is whole. -/
def Numeral.word? (n : Numeral) : Option UInt64 :=
  match n.value? with
  | some (.int (.ofNat v)) => if v < Decimal.wordBound then some v.toUInt64 else none
  | _ => none

instance : Document Placed where
  shape? d := match d.node with
    | .object members =>
      if d.room = 0 then none
      else some (.members (members.map fun e => (⟨d.room - 1, .string e.1⟩, ⟨d.room - 1, e.2⟩)))
    | .array items =>
      if d.room = 0 then none else some (.items (items.map fun w => ⟨d.room - 1, w⟩))
    | _ => some .scalar
  text? d := match d.node with
    | .string glyphs => quotedText? glyphs
    | _ => none
  word? d := match d.node with
    | .number n => n.word?
    | _ => none
  flag? d := match d.node with
    | .bool b => some b
    | _ => none
  absent? d := match d.node with
    | .null => some true
    | _ => some false
  atom? d := match d.node.value? d.room with
    | some (.string s) => some (.text s)
    | some _ => some .other
    | none => none

instance : Document Json where
  shape?
    | .object members => some (.members (members.map fun e => (.string e.1, e.2)))
    | .array items => some (.items items)
    | _ => some .scalar
  text? := Json.asString?
  word? v := match v.asNat? with
    | some n => if n < Decimal.wordBound then some n.toUInt64 else none
    | none => none
  flag? := Json.asBool?
  absent?
    | .null => some true
    | _ => some false
  atom?
    | .string s => some (.text s)
    | _ => some .other

end Json

end Switchboard
