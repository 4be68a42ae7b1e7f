import Switchboard.Yaml.Token.Scalar

/-!
# From YAML text to tokens

Block structure comes from indentation: a column further right than the block around it opens a
block, a column further left closes blocks. A mapping key is only known to be one when its colon
comes, so the place of every possible key is kept until then, one for each level of brackets.
-/

namespace Switchboard.Yaml

/-- Where a key may have begun. -/
structure PossibleKey where
  /-- How many tokens stand before it. -/
  position : Nat
  index : Nat
  line : Nat
  column : Nat
  /-- At this place nothing but a key can stand. -/
  required : Bool
  deriving Repr

/-- A text that is being cut into tokens. -/
structure Lexer where
  rest : List Cell
  tokens : Array Token := #[]
  /-- Column of the innermost open block, -1 outside of all blocks. -/
  indent : Int := -1
  /-- Columns of the blocks around it, innermost first. -/
  outer : List Int := []
  /-- A key may begin here. -/
  keyAllowed : Bool := true
  /-- The possible key of the innermost brackets, and of those around them. -/
  key : Option PossibleKey := none
  outerKeys : List (Option PossibleKey) := []

namespace Lexer

/-- Inside brackets, where indentation has no meaning. -/
def inFlow (l : Lexer) : Bool := !l.outerKeys.isEmpty

def column (l : Lexer) : Nat := columnOf l.rest

def push (l : Lexer) (t : Token) : Lexer := { l with tokens := l.tokens.push t }

def skip (l : Lexer) (count : Nat) : Lexer := { l with rest := l.rest.drop count }

/-- Drops white space and comments up to the next token. A tab may not stand where a key may
begin. -/
def skipGap (inFlow keyAllowed : Bool) : List Cell → Bool × List Cell
  | c :: rest =>
    if c.char = ' ' || (c.char = '\t' && (inFlow || !keyAllowed)) then skipGap inFlow keyAllowed rest
    else if c.char = '#' then skipLine inFlow keyAllowed rest
    else if c.isBreak then skipGap inFlow (keyAllowed || !inFlow) rest
    else (keyAllowed, c :: rest)
  | [] => (keyAllowed, [])
where
  skipLine (inFlow keyAllowed : Bool) : List Cell → Bool × List Cell
    | c :: rest =>
      if c.isBreak then skipGap inFlow (keyAllowed || !inFlow) rest
      else skipLine inFlow keyAllowed rest
    | [] => (keyAllowed, [])

/-- Forgets the possible key; one that had to be a key is an error. -/
def dropKey? (l : Lexer) : Option Lexer :=
  match l.key with
  | some k => if k.required then none else some { l with key := none }
  | none => some l

/-- Remembers that a key may begin here. -/
def noteKey? (l : Lexer) : Option Lexer :=
  if l.keyAllowed then do
    let l ← l.dropKey?
    match l.rest with
    | c :: _ =>
      let required := !l.inFlow && decide (l.indent = c.column)
      some { l with key := some ⟨l.tokens.size, c.index, c.line, c.column, required⟩ }
    | [] => some l
  else some l

/-- The possible key, if it is on this line and not too long to be one. -/
def liveKey? (l : Lexer) : Option (Option PossibleKey) :=
  match l.key, l.rest with
  | some k, c :: _ =>
    if k.line < c.line || k.index + 1024 < c.index then
      if k.required then none else some none
    else some (some k)
  | _, _ => some none

/-- Opens a block at a column further right; the token stands where the block begins. -/
def open_ (l : Lexer) (column : Nat) (position : Nat) (t : Token) : Lexer :=
  if l.inFlow || decide ((column : Int) ≤ l.indent) then l
  else
    { l with
      outer := l.indent :: l.outer
      indent := column
      tokens := (l.tokens.extract 0 position).push t ++ l.tokens.extract position l.tokens.size }

/-- Closes all blocks further right than a column. -/
def close (column : Int) (indent : Int) (tokens : Array Token) : List Int → Int × List Int × Array Token
  | [] => (indent, [], tokens)
  | up :: outer =>
    if column < indent then close column up (tokens.push .blockEnd) outer
    else (indent, up :: outer, tokens)

def closeTo (l : Lexer) (column : Int) : Lexer :=
  if l.inFlow then l
  else
    let (indent, outer, tokens) := close column l.indent l.tokens l.outer
    { l with indent, outer, tokens }

/-! ## Directives, names and tags -/

private def takeWord (cs : List Cell) : List Char × List Cell :=
  ((cs.takeWhile fun c => isWord c.char).map (·.char), cs.dropWhile fun c => isWord c.char)

private def readVersionPart? (cs : List Cell) : Option (Nat × List Cell) :=
  let ds := (cs.takeWhile fun c => c.char.isDigit).map (·.char)
  if ds.isEmpty || 9 < ds.length then none
  else some (Nat.ofDigitChars 10 ds 0, cs.drop ds.length)

/-- Reads `!`, `!!` or `!name!`; a directive needs the second mark unless it is about `!`. -/
def readTagHandle? (directive : Bool) (cs : List Cell) : Option (List Char × List Cell) :=
  match cs with
  | c :: rest =>
    if c.char = '!' then
      let (word, rest) := takeWord rest
      match rest with
      | d :: after =>
        if d.char = '!' then some ('!' :: word ++ ['!'], after)
        else if directive && !word.isEmpty then none
        else some ('!' :: word, rest)
      | [] => if directive && !word.isEmpty then none else some ('!' :: word, [])
    else none
  | [] => none

def isTagChar (verbatim : Bool) (c : Char) : Bool :=
  isWord c || c ∈ [';', '/', '?', ':', '@', '&', '=', '+', '$', '.', '%', '!', '~', '*', '\'', '(',
    ')'] || (verbatim && c ∈ [',', '[', ']'])

/-- Octets written as `%` and two hexadecimal digits, for one character. -/
def readTagEscape? (cs : List Cell) : Option (Char × List Cell) := do
  let octet? (cs : List Cell) : Option (UInt8 × List Cell) :=
    match cs with
    | p :: rest =>
      if p.char = '%' then (hexNumber? 2 rest).map fun n => (UInt8.ofNat n, rest.drop 2) else none
    | [] => none
  let (first, rest) ← octet? cs
  let count := if first < 0x80 then 0 else if first < 0xE0 then 1 else if first < 0xF0 then 2 else 3
  let (octets, rest) ← (List.range count).foldl (fun state? _ => do
    let (octets, rest) ← state?
    let (b, rest) ← octet? rest
    some (octets ++ [b], rest)) (some ([first], rest))
  match (String.fromUTF8? (ByteArray.mk octets.toArray)).map String.toList with
  | some [c] => some (c, rest)
  | _ => none

/-- Reads the text of a tag. The fuel bounds the number of characters. -/
def readTagText? (verbatim : Bool) : Nat → List Cell → Option (List Char × List Cell)
  | 0, _ => none
  | fuel + 1, c :: rest =>
    if isTagChar verbatim c.char then
      if c.char = '%' then do
        let (x, rest) ← readTagEscape? (c :: rest)
        (readTagText? verbatim fuel rest).map fun (text, rest) => (x :: text, rest)
      else (readTagText? verbatim fuel rest).map fun (text, rest) => (c.char :: text, rest)
    else some ([], c :: rest)
  | _ + 1, [] => some ([], [])

/-- Reads a directive after its `%`, through the end of its line. -/
def readDirective? (cs : List Cell) : Option (Token × List Cell) := do
  let skipBlanks (cs : List Cell) := cs.dropWhile Cell.isBlank
  let (name, rest) := takeWord cs
  if name.isEmpty || !atGap rest then none
  else
    let (token, rest) ←
      if name = "YAML".toList then do
        let (major, rest) ← readVersionPart? (skipBlanks rest)
        if !startsWith '.' rest then none
        else
          let (minor, rest) ← readVersionPart? (rest.drop 1)
          some (Token.version major minor, rest)
      else if name = "TAG".toList then do
        let (handle, rest) ← readTagHandle? true (skipBlanks rest)
        if !(atGap rest && !atLineEnd rest) then none
        else
          let rest := skipBlanks rest
          let (expansion, rest) ← readTagText? true (rest.length + 1) rest
          if expansion.isEmpty || !atGap rest then none
          else some (Token.handle handle expansion, rest)
      else none
    let rest := skipComment rest
    if atLineEnd rest then some (token, rest.drop 1) else none

/-- Reads the name of an anchor or an alias. -/
def readName? (cs : List Cell) : Option (List Char × List Cell) :=
  let (name, rest) := takeWord cs
  let ends := atGap rest || (match rest with
    | c :: _ => decide (c.char ∈ ['?', ':', ',', ']', '}', '%', '@', '\u0060'])
    | [] => true)
  if name.isEmpty || !ends then none else some (name, rest)

/-- Reads a tag from its `!` on: its handle and the rest of it. -/
def readTag? (inFlow : Bool) (cs : List Cell) : Option (Token × List Cell) := do
  let (token, rest) ←
    if startsWith '<' (cs.drop 1) then do
      let rest := cs.drop 2
      let (text, rest) ← readTagText? true (rest.length + 1) rest
      if text.isEmpty || !startsWith '>' rest then none
      else some (Token.tag [] text, rest.drop 1)
    else do
      let (handle, rest) ← readTagHandle? false cs
      let (suffix, rest) ← readTagText? false (rest.length + 1) rest
      if handle.length > 1 && handle.getLast? = some '!' then
        if suffix.isEmpty then none else some (Token.tag handle suffix, rest)
      else
        let suffix := handle.drop 1 ++ suffix
        some (if suffix.isEmpty then Token.tag [] ['!'] else Token.tag ['!'] suffix, rest)
  if atGap rest || (inFlow && startsWith ',' rest) then some (token, rest) else none

/-! ## One token -/

/-- The character may begin a plain scalar. -/
def beginsPlain (inFlow : Bool) (c : Cell) (rest : List Cell) : Bool :=
  let indicators := ['-', '?', ':', ',', '[', ']', '{', '}', '#', '&', '*', '!', '|', '>', '\'', '"',
    '%', '@', '\u0060']
  !(c.isBlank || c.isBreak || decide (c.char ∈ indicators)) ||
    (c.char = '-' && !(match rest with
      | d :: _ => d.isBlank
      | [] => false)) ||
    (!inFlow && (c.char = '?' || c.char = ':') && !atGap rest)

/-- Takes a token of one scalar that may be a key. -/
private def takeScalar (l : Lexer) (style : Style) (read : Option (List Char × List Cell)) :
    Option Lexer := do
  let (text, rest) ← read
  some { l.push (.scalar style text) with rest, keyAllowed := false }

/-- Takes the next token of a text that does not end here. -/
def next? (l : Lexer) (c : Cell) (rest : List Cell) : Option Lexer :=
  let here := c :: rest
  if c.column = 0 && c.char = '%' then do
    let l ← (l.closeTo (-1)).dropKey?
    let (token, rest) ← readDirective? rest
    some { l.push token with rest, keyAllowed := false }
  else if atDocumentMarker here then do
    let l ← (l.closeTo (-1)).dropKey?
    let token := if c.char = '-' then Token.documentStart else Token.documentEnd
    some { (l.push token).skip 3 with keyAllowed := false }
  else if c.char = '[' || c.char = '{' then do
    let l ← l.noteKey?
    let token := if c.char = '[' then Token.flowSequenceStart else Token.flowMappingStart
    some { (l.push token).skip 1 with
      outerKeys := l.key :: l.outerKeys, key := none, keyAllowed := true }
  else if c.char = ']' || c.char = '}' then do
    let l ← l.dropKey?
    let token := if c.char = ']' then Token.flowSequenceEnd else Token.flowMappingEnd
    let l := match l.outerKeys with
      | key :: outerKeys => { l with key, outerKeys }
      | [] => l
    some { (l.push token).skip 1 with keyAllowed := false }
  else if c.char = ',' then do
    let l ← l.dropKey?
    some { (l.push .flowEntry).skip 1 with keyAllowed := true }
  else if c.char = '-' && atGap rest then
    if !l.inFlow && !l.keyAllowed then none
    else do
      let l ← (l.open_ c.column l.tokens.size .blockSequenceStart).dropKey?
      some { (l.push .blockEntry).skip 1 with keyAllowed := true }
  else if c.char = '?' && (l.inFlow || atGap rest) then
    if !l.inFlow && !l.keyAllowed then none
    else do
      let l ← (l.open_ c.column l.tokens.size .blockMappingStart).dropKey?
      some { (l.push .key).skip 1 with keyAllowed := !l.inFlow }
  else if c.char = ':' && (l.inFlow || atGap rest) then do
    match ← l.liveKey? with
    | some k =>
      let l := { l with
        key := none
        tokens := (l.tokens.extract 0 k.position).push .key ++
          l.tokens.extract k.position l.tokens.size }
      let l := l.open_ k.column k.position .blockMappingStart
      some { (l.push .value).skip 1 with keyAllowed := false }
    | none =>
      if !l.inFlow && !l.keyAllowed then none
      else
        let l := l.open_ c.column l.tokens.size .blockMappingStart
        some { (l.push .value).skip 1 with key := none, keyAllowed := !l.inFlow }
  else if c.char = '*' || c.char = '&' then do
    let l ← l.noteKey?
    let (name, rest) ← readName? rest
    some { l.push (if c.char = '*' then .alias name else .anchor name) with
      rest, keyAllowed := false }
  else if c.char = '!' then do
    let l ← l.noteKey?
    let (token, rest) ← readTag? l.inFlow here
    some { l.push token with rest, keyAllowed := false }
  else if (c.char = '|' || c.char = '>') && !l.inFlow then do
    let l ← l.dropKey?
    let folded := decide (c.char = '>')
    let (text, rest) ← readBlockScalar? folded l.indent rest
    some { l.push (.scalar (if folded then .folded else .literal) text) with
      rest, keyAllowed := true }
  else if c.char = '\'' || c.char = '"' then do
    let l ← l.noteKey?
    takeScalar l .quoted (readQuotedScalar? (c.char = '\'') (rest.length + 1) rest)
  else if beginsPlain l.inFlow c rest then do
    let l ← l.noteKey?
    let (text, overBreak, rest) ← readPlain? l.inFlow (l.indent + 1).toNat (here.length + 1) here
    some { l.push (.scalar .plain text) with rest, keyAllowed := overBreak }
  else none

/-- Takes tokens up to the end of the text. Every step takes a character, so the length of the text
is fuel enough. -/
def run? : Nat → Lexer → Option (List Token)
  | 0, _ => none
  | fuel + 1, l =>
    let (keyAllowed, rest) := skipGap l.inFlow l.keyAllowed l.rest
    let l := { l with keyAllowed, rest }
    match rest with
    | [] => do
      let l ← (l.closeTo (-1)).dropKey?
      some l.tokens.toList
    | c :: rest => do
      let l ← (l.closeTo c.column).next? c rest
      run? fuel l

end Lexer

/-- The tokens of a text. A byte order mark in front is passed over, though it keeps its column. -/
def tokens? (text : List Char) : Option (List Token) := do
  let cs ← cells? text
  let cs := if startsWith '\ufeff' cs then cs.drop 1 else cs
  Lexer.run? (cs.length + 1) { rest := cs }

end Switchboard.Yaml
