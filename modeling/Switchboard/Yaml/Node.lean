import Switchboard.Yaml.Token.Lexer

/-!
# YAML nodes

The tree of a document. An alias stays a leaf that names its anchor by number, since it may stand
inside the very node it refers to; the anchored nodes are listed beside the tree.

A text holds at most one document. An empty text, and a document of nothing, are an empty plain
scalar.
-/

namespace Switchboard.Yaml

inductive Node where
  | scalar (tag : Option String) (style : Style) (text : String)
  | sequence (tag : Option String) (items : List Node)
  | mapping (tag : Option String) (entries : List (Node × Node))
  | alias (anchor : Nat)
  deriving Repr

namespace Node

/-- What stands for a node that is left out. -/
def empty (tag : Option String) : Node := .scalar tag .plain ""

end Node

/-- Tokens that are being read into nodes. -/
structure Parser where
  tokens : List Token
  /-- Expansions of tag handles. -/
  handles : List (List Char × List Char)
  /-- The latest anchor of each name. -/
  names : List (List Char × Nat) := []
  /-- How many anchors there are. -/
  count : Nat := 0
  /-- Anchored nodes. -/
  anchored : List (Nat × Node) := []

namespace Parser

def drop (p : Parser) : Parser := { p with tokens := p.tokens.drop 1 }

/-- The next token is one of these, or there is none. -/
def at? (p : Parser) (ends : List Token) : Bool :=
  match p.tokens with
  | t :: _ => decide (t ∈ ends)
  | [] => true

/-- Reads an anchor and a tag, in either order. -/
def properties (p : Parser) : Option (List Char) × Option (List Char × List Char) × Parser :=
  match p.tokens with
  | .anchor name :: .tag handle suffix :: rest =>
    (some name, some (handle, suffix), { p with tokens := rest })
  | .tag handle suffix :: .anchor name :: rest =>
    (some name, some (handle, suffix), { p with tokens := rest })
  | .anchor name :: rest => (some name, none, { p with tokens := rest })
  | .tag handle suffix :: rest => (none, some (handle, suffix), { p with tokens := rest })
  | _ => (none, none, p)

/-- A tag with its handle expanded; the handle has to be known. -/
def expandTag? (p : Parser) : Option (List Char × List Char) → Option (Option String)
  | none => some none
  | some ([], suffix) => some (some (String.ofList suffix))
  | some (handle, suffix) =>
    (p.handles.find? fun h => h.1 == handle).map fun h => some (String.ofList (h.2 ++ suffix))

/-- A scalar whose tag is `!` has no tag. -/
def scalarTag (tag : Option String) : Option String :=
  if tag = some "!" then none else tag

/-- Numbers an anchor. -/
def note (p : Parser) : Option (List Char) → Parser
  | some name => { p with names := (name, p.count) :: p.names, count := p.count + 1 }
  | none => p

mutual

/-- Reads a node. Block collections may only stand where `block` holds, and a sequence that is no
further right than its key only where `indentless` does. The fuel bounds the number of steps; no
token takes more than four. -/
def node? : Nat → (block indentless : Bool) → Parser → Option (Node × Parser)
  | 0, _, _, _ => none
  | fuel + 1, block, indentless, p =>
    match p.tokens with
    | .alias name :: _ => do
      let (_, id) ← p.names.find? fun e => e.1 == name
      some (.alias id, p.drop)
    | _ => do
      let (anchor, rawTag, p) := p.properties
      let tag ← p.expandTag? rawTag
      let id := p.count
      let p := p.note anchor
      let (node, p) ←
        match p.tokens with
        | .scalar style text :: _ =>
          some (Node.scalar (scalarTag tag) style (String.ofList text), p.drop)
        | .flowSequenceStart :: _ =>
          (flowItems? fuel true p.drop).map fun (items, p) => (.sequence tag items, p)
        | .flowMappingStart :: _ =>
          (flowEntries? fuel true p.drop).map fun (entries, p) => (.mapping tag entries, p)
        | t :: _ =>
          if indentless && t = .blockEntry then
            (indentlessItems? fuel p).map fun (items, p) => (.sequence tag items, p)
          else if block && t = .blockSequenceStart then
            (blockItems? fuel p.drop).map fun (items, p) => (.sequence tag items, p)
          else if block && t = .blockMappingStart then
            (blockEntries? fuel p.drop).map fun (entries, p) => (.mapping tag entries, p)
          else if anchor.isSome || rawTag.isSome then some (.empty (scalarTag tag), p)
          else none
        | [] =>
          if anchor.isSome || rawTag.isSome then some (.empty (scalarTag tag), p) else none
      match anchor with
      | some _ => some (node, { p with anchored := (id, node) :: p.anchored })
      | none => some (node, p)

/-- Reads a node, or nothing in front of one of these tokens. -/
def nodeOrEmpty? :
    Nat → (block indentless : Bool) → List Token → Parser → Option (Node × Parser)
  | 0, _, _, _, _ => none
  | fuel + 1, block, indentless, ends, p =>
    if p.at? ends then some (.empty none, p) else node? fuel block indentless p

/-- Reads the entries of a block sequence through its end. -/
def blockItems? : Nat → Parser → Option (List Node × Parser)
  | 0, _ => none
  | fuel + 1, p =>
    match p.tokens with
    | .blockEntry :: _ => do
      let (x, p) ← nodeOrEmpty? fuel true false [.blockEntry, .blockEnd] p.drop
      let (xs, p) ← blockItems? fuel p
      some (x :: xs, p)
    | .blockEnd :: _ => some ([], p.drop)
    | _ => none

/-- Reads the entries of a sequence in a mapping, at the column of the key. -/
def indentlessItems? : Nat → Parser → Option (List Node × Parser)
  | 0, _ => none
  | fuel + 1, p =>
    match p.tokens with
    | .blockEntry :: _ => do
      let (x, p) ← nodeOrEmpty? fuel true false [.blockEntry, .key, .value, .blockEnd] p.drop
      let (xs, p) ← indentlessItems? fuel p
      some (x :: xs, p)
    | _ => some ([], p)

/-- Reads the entries of a block mapping through its end. -/
def blockEntries? : Nat → Parser → Option (List (Node × Node) × Parser)
  | 0, _ => none
  | fuel + 1, p =>
    match p.tokens with
    | .key :: _ => do
      let (k, p) ← nodeOrEmpty? fuel true true [.key, .value, .blockEnd] p.drop
      blockValue? fuel k p
    | .blockEnd :: _ => some ([], p.drop)
    | _ => none

/-- Reads the value of a key, if there is one, and the entries after it. -/
def blockValue? : Nat → Node → Parser → Option (List (Node × Node) × Parser)
  | 0, _, _ => none
  | fuel + 1, k, p => do
    let (v, p) ← match p.tokens with
      | .value :: _ => nodeOrEmpty? fuel true true [.key, .value, .blockEnd] p.drop
      | _ => some (.empty none, p)
    let (es, p) ← blockEntries? fuel p
    some ((k, v) :: es, p)

/-- Reads the items of a sequence in brackets. -/
def flowItems? : Nat → (first : Bool) → Parser → Option (List Node × Parser)
  | 0, _, _ => none
  | fuel + 1, first, p =>
    match p.tokens with
    | .flowSequenceEnd :: _ => some ([], p.drop)
    | t :: _ => do
      let p ← if first then some p else if t = .flowEntry then some p.drop else none
      match p.tokens with
      | .flowSequenceEnd :: _ => some ([], p.drop)
      | .key :: _ =>
        -- a single pair stands for a mapping
        let ends := [Token.flowEntry, .flowSequenceEnd]
        let (k, p) ← nodeOrEmpty? fuel false false (.value :: ends) p.drop
        let (v, p) ← match p.tokens with
          | .value :: _ => nodeOrEmpty? fuel false false ends p.drop
          | _ => some (.empty none, p)
        let (xs, p) ← flowItems? fuel false p
        some (.mapping none [(k, v)] :: xs, p)
      | _ =>
        let (x, p) ← node? fuel false false p
        let (xs, p) ← flowItems? fuel false p
        some (x :: xs, p)
    | [] => none

/-- Reads the entries of a mapping in braces. -/
def flowEntries? : Nat → (first : Bool) → Parser → Option (List (Node × Node) × Parser)
  | 0, _, _ => none
  | fuel + 1, first, p =>
    match p.tokens with
    | .flowMappingEnd :: _ => some ([], p.drop)
    | t :: _ => do
      let p ← if first then some p else if t = .flowEntry then some p.drop else none
      let ends := [Token.flowEntry, .flowMappingEnd]
      match p.tokens with
      | .flowMappingEnd :: _ => some ([], p.drop)
      | .key :: _ =>
        let (k, p) ← nodeOrEmpty? fuel false false (.value :: ends) p.drop
        let (v, p) ← match p.tokens with
          | .value :: _ => nodeOrEmpty? fuel false false ends p.drop
          | _ => some (.empty none, p)
        let (es, p) ← flowEntries? fuel false p
        some ((k, v) :: es, p)
      | _ =>
        let (k, p) ← node? fuel false false p
        let (es, p) ← flowEntries? fuel false p
        some ((k, .empty none) :: es, p)
    | [] => none

end

/-! ## Documents -/

/-- The handles that every document knows. -/
def standardHandles : List (List Char × List Char) :=
  [("!".toList, "!".toList), ("!!".toList, "tag:yaml.org,2002:".toList)]

/-- Reads the directives in front of a document: a version that is known, at most once, and
handles, each at most once. -/
def directives? (handles : List (List Char × List Char)) (versioned : Bool) :
    List Token → Option (List (List Char × List Char) × List Token)
  | .version major minor :: rest =>
    if versioned || major ≠ 1 || (minor ≠ 1 && minor ≠ 2) then none
    else directives? handles true rest
  | .handle name expansion :: rest =>
    if handles.any (fun h => h.1 == name) then none
    else directives? (handles ++ [(name, expansion)]) versioned rest
  | tokens => some (handles, tokens)

/-- The document after its start: its node, or nothing. -/
private def content? (p : Parser) : Option (Node × Parser) :=
  if p.at? [.documentStart, .documentEnd] ||
      (match p.tokens with
        | .version _ _ :: _ => true
        | .handle _ _ :: _ => true
        | _ => false) then some (.empty none, p)
  else node? (4 * p.tokens.length + 4) true false p

/-- The only document of a text, with the nodes that its aliases refer to. -/
def document? (tokens : List Token) : Option (Node × List (Nat × Node)) := do
  let (node, p) ← match tokens with
    | [] => some (.empty none, ⟨[], standardHandles, [], 0, []⟩)
    | .version _ _ :: _ | .handle _ _ :: _ | .documentStart :: _ => do
      let (handles, rest) ← directives? [] false tokens
      match rest with
      | .documentStart :: rest => content? ⟨rest, handles ++ standardHandles, [], 0, []⟩
      | _ => none
    | _ => node? (4 * tokens.length + 4) true false ⟨tokens, standardHandles, [], 0, []⟩
  let rest := p.tokens.dropWhile fun t => t = .documentEnd
  if rest.isEmpty then some (node, p.anchored) else none

end Parser

/-- The document of a text. -/
def document? (text : List Char) : Option (Node × List (Nat × Node)) :=
  (tokens? text).bind Parser.document?

end Switchboard.Yaml
