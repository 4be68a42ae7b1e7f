/-!
# YAML tokens

The characters of a YAML text with their places, and the tokens that they form. Every line break
counts as one character: a carriage return, a line feed, both together and a next-line character
are all read as a line feed, while the line and paragraph separators stay what they are.
-/

namespace Switchboard.Yaml

/-- A character and its place. -/
structure Cell where
  char : Char
  index : Nat
  line : Nat
  column : Nat
  deriving Repr, DecidableEq

/-- The characters that may stand in a text. -/
def isPrintable (c : Char) : Bool :=
  let n := c.toNat
  n == 0x09 || n == 0x0A || n == 0x0D || (0x20 ≤ n && n ≤ 0x7E) || n == 0x85 ||
    (0xA0 ≤ n && n ≤ 0xFFFD) || 0x10000 ≤ n

def isBreak (c : Char) : Bool :=
  c = '\n' || c = '\u2028' || c = '\u2029'

def isBlank (c : Char) : Bool :=
  c = ' ' || c = '\t'

/-- Characters of anchors, directives and tag handles. -/
def isWord (c : Char) : Bool :=
  c.isAlphanum || c = '_' || c = '-'

/-- The places of a text, from a given place on. -/
def cellsFrom (index line column : Nat) : List Char → List Cell
  | '\r' :: '\n' :: rest =>
    ⟨'\n', index, line, column⟩ :: cellsFrom (index + 2) (line + 1) 0 rest
  | c :: rest =>
    if c = '\r' || c = '\n' || c = '\u0085' then
      ⟨'\n', index, line, column⟩ :: cellsFrom (index + 1) (line + 1) 0 rest
    else if isBreak c then
      ⟨c, index, line, column⟩ :: cellsFrom (index + 1) (line + 1) 0 rest
    else ⟨c, index, line, column⟩ :: cellsFrom (index + 1) line (column + 1) rest
  | [] => []

/-- The places of a whole text; `none` if it holds a character that may not stand there. -/
def cells? (text : List Char) : Option (List Cell) :=
  if text.all isPrintable then some (cellsFrom 0 0 0 text) else none

namespace Cell

def isBreak (c : Cell) : Bool := Yaml.isBreak c.char

def isBlank (c : Cell) : Bool := Yaml.isBlank c.char

end Cell

/-- The next character is this one. -/
def startsWith (c : Char) : List Cell → Bool
  | d :: _ => d.char = c
  | [] => false

/-- A blank, a line break or the end comes next. -/
def atGap : List Cell → Bool
  | c :: _ => c.isBlank || c.isBreak
  | [] => true

/-- A line break or the end comes next. -/
def atLineEnd : List Cell → Bool
  | c :: _ => c.isBreak
  | [] => true

/-- The column of the next character, 0 at the end. -/
def columnOf : List Cell → Nat
  | c :: _ => c.column
  | [] => 0

/-- A line that holds three times `c` and then a gap begins here. -/
def atMarker (c : Char) : List Cell → Bool
  | x :: y :: z :: rest =>
    x.column = 0 && x.char = c && y.char = c && z.char = c && atGap rest
  | _ => false

/-- The mark of the start or of the end of a document comes next. -/
def atDocumentMarker (cs : List Cell) : Bool :=
  atMarker '-' cs || atMarker '.' cs

/-- How a scalar was written. -/
inductive Style where
  | plain
  | quoted
  | literal
  | folded
  deriving Repr, DecidableEq

inductive Token where
  | version (major minor : Nat)
  | handle (name expansion : List Char)
  | documentStart
  | documentEnd
  | blockSequenceStart
  | blockMappingStart
  | blockEnd
  | flowSequenceStart
  | flowSequenceEnd
  | flowMappingStart
  | flowMappingEnd
  | blockEntry
  | flowEntry
  | key
  | value
  | alias (name : List Char)
  | anchor (name : List Char)
  | tag (handle suffix : List Char)
  | scalar (style : Style) (text : List Char)
  deriving Repr, DecidableEq

end Switchboard.Yaml
