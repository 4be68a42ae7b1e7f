import Switchboard.Endpoint.Template
import Switchboard.Json.Text
import Switchboard.Listing.Page
import Switchboard.Text.Quoted
import Switchboard.Tool

/-!
# Endpoints

An endpoint of a backend is a tool by its table entry alone: placeholders in its path are filled
from arguments, declared arguments go into the query, and where the reply holds a list, one page of
it is cut out.

Main definitions: `Endpoint.inputSchema`, `renderPath`, `renderQuery` and `shape`.
-/

namespace Switchboard

/-- One entry of a table of endpoints. -/
structure Endpoint where
  tool : String
  description : String
  /-- Path with placeholders. -/
  path : String
  /-- Arguments that go into the query if they are given. -/
  query : List String := []
  /-- Pairs that always go into the query. -/
  fixed : List (String × String) := []
  /-- Pointer to the list in the reply, for endpoints that list something. -/
  list : Option String := none
  deriving Repr, DecidableEq

/-- What is wrong with an argument that fills a placeholder. -/
inductive ArgumentError where
  | missing (name : String)
  | invalid (name value : String)
  deriving Repr, DecidableEq

def ArgumentError.failure : ArgumentError → Failure
  | .missing name => .of ("missing required argument '" ++ name ++ "'")
  | .invalid name value =>
    .of ("invalid value for '" ++ name ++ "': " ++ Text.quoted value)

/-- The text of an argument; lists, objects and `null` have none. -/
def argumentText? (arguments : Json) (name : String) : Option String :=
  match arguments.get? name with
  | some (.string s) => some s
  | some (.number n) => some (String.ofList n.text)
  | some (.bool b) => some (if b then "true" else "false")
  | _ => none

/-- Characters of a value that fills a placeholder. A colon is none of them, because in front of a
path it would end a scheme. -/
def isSegmentChar (c : Char) : Bool :=
  c.isAlphanum || c = '-' || c = '.' || c = '_' || c = '~' || c = '*' || c = ',' || c = '+' || c = '='

/-- Whether a value stands for itself as part of one path segment. -/
def isSegment (value : String) : Bool :=
  value ≠ "" && value ≠ "." && value ≠ ".." && value.toList.all isSegmentChar

/-- The page of a listing as a value. -/
def Page.toJson {α : Type} (item : α → Json) (p : Page α) : Json :=
  .object ([("hasMore", .bool p.hasMore), ("items", .array (p.items.map item))] ++
    (match p.nextCursor with
      | some cursor => [("nextCursor", .string cursor)]
      | none => []) ++
    [("offset", Json.ofNat p.offset), ("remainingCount", Json.ofNat p.remainingCount),
      ("total", Json.ofNat p.total)])

/-- The page size that arguments ask for. -/
def pageLimit (arguments : Json) (usual : Nat) : Nat :=
  ((arguments.get? "limit").bind Json.asNat?).getD usual

/-- The cursor in arguments. -/
def pageCursor (arguments : Json) : Option String :=
  (arguments.get? "cursor").bind Json.asString?

namespace Endpoint

/-- Names of the placeholders, in order. -/
def pathParams (e : Endpoint) : List String :=
  Template.names e.path

/-! ## Schema -/

/-- Schema of an argument that is a text. -/
def textSchema : Json := .object [("type", .string "string")]

/-- Schemas of the arguments that ask for a page. -/
def pageSchemas : List (String × Json) := [
  ("cursor", .object [("description", .string "Continuation token from a previous page"),
    ("type", .string "string")]),
  ("limit", .object [("description", .string "Maximum items to return"),
    ("minimum", Json.ofNat 1), ("type", .string "integer")])]

/-- The arguments of an endpoint with their schemas. -/
def properties (e : Endpoint) : NameMap Json :=
  NameMap.ofList ((e.pathParams ++ e.query).map (·, textSchema) ++
    (if e.list.isSome then pageSchemas else []))

/-- Schema of all arguments: those of the path are required. -/
def inputSchema (e : Endpoint) : Json :=
  .object [("properties", Json.ofMap id e.properties), ("required", Json.ofTexts e.pathParams),
    ("type", .string "object")]

/-! ## Request -/

/-- The value of one placeholder. -/
def placeholderValue (arguments : Json) (name : String) : Except ArgumentError String :=
  match argumentText? arguments name with
  | none => .error (.missing name)
  | some value => if isSegment value then .ok value else .error (.invalid name value)

/-- Fills the named placeholders in turn. -/
def fillAll (arguments : Json) (path : List Char) :
    List String → Except ArgumentError (List Char)
  | [] => .ok path
  | name :: rest => do
    let value ← placeholderValue arguments name
    fillAll arguments (Template.fill name value path) rest

/-- The path with arguments for its placeholders. -/
def renderPath (e : Endpoint) (arguments : Json) : Except ArgumentError String :=
  (fillAll arguments e.path.toList e.pathParams).map String.ofList

/-- The pairs of the query: first the fixed ones, then the arguments that are given. -/
def renderQuery (e : Endpoint) (arguments : Json) : List (String × String) :=
  e.fixed ++ e.query.filterMap fun name => (argumentText? arguments name).map (name, ·)

/-! ## Reply -/

/-- The list that a pointer leads to. Where it leads nowhere, the list is empty. -/
def listAt (e : Endpoint) (pointer : String) (reply : Json) : Except Failure (List Json) :=
  match reply.pointer? pointer with
  | some (.array items) => .ok items
  | some .null | none => .ok []
  | some other =>
    .error (.of ("expected a list at '" ++ pointer ++ "' in " ++ e.tool ++ " response, found " ++
      other.kindName))

/-- The result that a reply gives: a page of the list, or the whole reply. -/
def shape (e : Endpoint) (reply arguments : Json) (usualLimit : Nat) : Outcome :=
  match e.list with
  | none => .ok reply
  | some pointer =>
    (e.listAt pointer reply).map fun items =>
      (paginate items (pageCursor arguments) (pageLimit arguments usualLimit)).toJson id

end Endpoint

end Switchboard
