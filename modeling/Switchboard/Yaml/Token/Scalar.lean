import Switchboard.Json.Written
import Switchboard.Yaml.Token

/-!
# Lexemes of YAML scalars

Plain, quoted and block scalars. All three fold line breaks by one rule: a single break between two
lines of text becomes a space, and of several breaks the first is dropped.
-/

namespace Switchboard.Yaml

/-- What stands between two words of a scalar. -/
structure Gap where
  /-- Blanks on the line of the first word. -/
  blanks : List Char
  breaks : List Char
  /-- The first break was escaped, so none of `breaks` is the first. -/
  escaped : Bool

/-- The text that a gap stands for. -/
def Gap.text (g : Gap) : List Char :=
  if g.escaped then g.breaks
  else
    match g.breaks with
    | [] => g.blanks
    | ['\n'] => [' ']
    | '\n' :: more => more
    | breaks => breaks

/-- Whether the gap goes over a line break. -/
def Gap.overBreak (g : Gap) : Bool :=
  g.escaped || !g.breaks.isEmpty

/-- Reads a gap. A tab left of `margin` is refused on all lines but the first. -/
def readGap? (margin : Nat) (gap : Gap) : List Cell → Option (Gap × List Cell)
  | c :: rest =>
    if c.isBlank then
      if gap.overBreak then
        if c.char = '\t' && decide (c.column < margin) then none else readGap? margin gap rest
      else readGap? margin { gap with blanks := gap.blanks ++ [c.char] } rest
    else if c.isBreak then readGap? margin { gap with breaks := gap.breaks ++ [c.char] } rest
    else some (gap, c :: rest)
  | [] => some (gap, [])

/-! ## Plain scalars -/

def isFlowBracket (c : Char) : Bool :=
  c = '[' || c = ']' || c = '{' || c = '}'

/-- Reads up to the end of a word of a plain scalar. Inside brackets a colon may not stand right in
front of a bracket or a comma. -/
def readPlainWord? (inFlow : Bool) : List Cell → Option (List Char × List Cell)
  | c :: rest =>
    if c.isBlank || c.isBreak then some ([], c :: rest)
    else
      let next := match rest with
        | d :: _ => d.char
        | [] => ' '
      if inFlow && c.char = ':' && (next = ',' || next = '?' || isFlowBracket next) then none
      else if (c.char = ':' && atGap rest) || (inFlow && (c.char = ',' || isFlowBracket c.char)) then
        some ([], c :: rest)
      else (readPlainWord? inFlow rest).map fun (text, rest) => (c.char :: text, rest)
  | [] => some ([], [])

/-- Reads a plain scalar from the start of a word on. Says whether the gap after it goes over a line
break. The fuel bounds the number of words. -/
def readPlain? (inFlow : Bool) (margin : Nat) :
    Nat → List Cell → Option (List Char × Bool × List Cell)
  | 0, _ => none
  | fuel + 1, cs => do
    let (word, rest) ← readPlainWord? inFlow cs
    if rest.isEmpty || !atGap rest then some (word, false, rest)
    else
      let (gap, rest) ← readGap? margin ⟨[], [], false⟩ rest
      let outdented := !inFlow && decide (columnOf rest < margin)
      if rest.isEmpty || outdented || atDocumentMarker rest || startsWith '#' rest then
        some (word, gap.overBreak, rest)
      else
        -- a word that ends at once ends the scalar, and then the gap is not part of it
        let (more, overBreak, after) ← readPlain? inFlow margin fuel rest
        if more.isEmpty then some (word, gap.overBreak, after)
        else some (word ++ gap.text ++ more, overBreak, after)

/-! ## Quoted scalars -/

/-- Escapes of one letter between double quotes. -/
def escapedChar? : Char → Option Char
  | '0' => some '\x00'
  | 'a' => some '\x07'
  | 'b' => some '\x08'
  | 't' => some '\t'
  | '\t' => some '\t'
  | 'n' => some '\n'
  | 'v' => some '\x0b'
  | 'f' => some '\x0c'
  | 'r' => some '\r'
  | 'e' => some '\x1b'
  | ' ' => some ' '
  | '"' => some '"'
  | '/' => some '/'
  | '\\' => some '\\'
  | 'N' => some '\u0085'
  | '_' => some '\u00a0'
  | 'L' => some '\u2028'
  | 'P' => some '\u2029'
  | _ => none

/-- How many hexadecimal digits follow the letter of a numeric escape. -/
def escapeLength? : Char → Option Nat
  | 'x' => some 2
  | 'u' => some 4
  | 'U' => some 8
  | _ => none

/-- The number of hexadecimal digits; there have to be exactly so many. -/
def hexNumber? (count : Nat) (cs : List Cell) : Option Nat :=
  if cs.length < count then none
  else (cs.take count).foldl (fun n? c => do
    let n ← n?
    let d ← Json.hexValue? c.char
    some (n * 16 + d)) (some 0)

/-- The character of a code point. -/
def scalarChar? (n : Nat) : Option Char :=
  if (0xD800 ≤ n && n ≤ 0xDFFF) || 0x10FFFF < n then none else some (Char.ofNat n)

/-- Reads a quoted scalar up to a gap or the closing quote; says whether it stopped after an escaped
line break. -/
def readQuotedWord? (single : Bool) (cs : List Cell) :
    Option (List Char × Bool × List Cell) :=
  match cs with
  | [] => some ([], false, [])
  | c :: rest =>
    if c.isBlank || c.isBreak then some ([], false, c :: rest)
    else if single then
      if c.char = '\'' then
        if startsWith '\'' rest then
          (readQuotedWord? single (rest.drop 1)).map fun (text, more) => ('\'' :: text, more)
        else some ([], false, c :: rest)
      else (readQuotedWord? single rest).map fun (text, more) => (c.char :: text, more)
    else if c.char = '"' then some ([], false, c :: rest)
    else if c.char = '\\' then
      match rest with
      | [] => none
      | e :: rest =>
        if e.isBreak then some ([], true, rest)
        else
          match escapeLength? e.char with
          | some count => do
            let x ← scalarChar? (← hexNumber? count rest)
            (readQuotedWord? single (rest.drop count)).map fun (text, more) => (x :: text, more)
          | none => do
            let x ← escapedChar? e.char
            (readQuotedWord? single rest).map fun (text, more) => (x :: text, more)
    else (readQuotedWord? single rest).map fun (text, more) => (c.char :: text, more)
termination_by cs.length
decreasing_by all_goals simp <;> omega

/-- Reads a quoted scalar after its opening quote, through the closing one. The fuel bounds the
number of words. -/
def readQuotedScalar? (single : Bool) : Nat → List Cell → Option (List Char × List Cell)
  | 0, _ => none
  | fuel + 1, cs =>
    if atDocumentMarker cs || cs.isEmpty then none
    else do
      let (word, escaped, rest) ← readQuotedWord? single cs
      if startsWith (if single then '\'' else '"') rest then some (word, rest.drop 1)
      else
        let (gap, rest) ← readGap? 0 ⟨[], [], escaped⟩ rest
        let (more, rest) ← readQuotedScalar? single fuel rest
        some (word ++ gap.text ++ more, rest)

/-! ## Block scalars -/

/-- What happens to the line breaks at the end of a block scalar. -/
inductive Chomping where
  | strip
  | clip
  | keep
  deriving Repr, DecidableEq

def chomping? : Char → Option Chomping
  | '-' => some .strip
  | '+' => some .keep
  | _ => none

/-- The header of a block scalar: chomping and indentation, in either order. -/
def readBlockHeader? (cs : List Cell) : Option (Chomping × Option Nat × List Cell) :=
  let digit? (c : Cell) : Option Nat :=
    if c.char.isDigit then some (c.char.toNat - 48) else none
  let chomp (cs : List Cell) : Option Chomping × List Cell :=
    match cs with
    | c :: rest => match chomping? c.char with
      | some x => (some x, rest)
      | none => (none, cs)
    | [] => (none, [])
  let indentation? (cs : List Cell) : Option (Option Nat × List Cell) :=
    match cs with
    | c :: rest => match digit? c with
      | some 0 => none
      | some n => some (some n, rest)
      | none => some (none, cs)
    | [] => some (none, [])
  let (first, cs) := chomp cs
  match indentation? cs with
  | none => none
  | some (indent, cs) =>
    match first with
    | some x => some (x, indent, cs)
    | none =>
      if indent.isSome then
        let (second, cs) := chomp cs
        some (second.getD .clip, indent, cs)
      else some (.clip, indent, cs)

/-- Drops blanks and a comment, up to the end of the line. -/
def skipComment (cs : List Cell) : List Cell :=
  match cs.dropWhile Cell.isBlank with
  | c :: rest => if c.char = '#' then (c :: rest).dropWhile (fun d => !d.isBreak) else c :: rest
  | [] => []

/-- Reads the indentation of the next line that holds text, and the breaks of the empty lines
before it. While the indentation is not known, all spaces in front are read, and the greatest
column is kept. -/
def readIndentation? (indent : Option Nat) (widest : Nat) (breaks : List Char) :
    List Cell → Option (Nat × List Char × List Cell)
  | c :: rest =>
    let inside := match indent with
      | some n => decide (c.column < n)
      | none => true
    if c.char = ' ' && inside then readIndentation? indent widest breaks rest
    else if c.char = '\t' && inside then none
    else if c.isBreak then readIndentation? indent (max widest c.column) (breaks ++ [c.char]) rest
    else some (max widest c.column, breaks, c :: rest)
  | [] => some (widest, breaks, [])

/-- Reads the lines of a block scalar. `lead` is the break of the line before, `trail` the breaks of
the empty lines after it. -/
def readBlockLines? (folded : Bool) (indent : Nat) :
    Nat → (lead trail : List Char) → (leadBlank : Bool) → List Cell →
      Option (List Char × List Char × List Char × List Cell)
  | 0, _, _, _, _ => none
  | fuel + 1, lead, trail, leadBlank, cs =>
    if cs.isEmpty || columnOf cs ≠ indent then some ([], lead, trail, cs)
    else do
      let startsBlank := atGap cs && !atLineEnd cs
      let before :=
        if folded && lead = ['\n'] && !leadBlank && !startsBlank then
          if trail.isEmpty then [' '] else trail
        else lead ++ trail
      let line := cs.takeWhile (fun c => !c.isBreak)
      let rest := cs.dropWhile (fun c => !c.isBreak)
      let (lead, rest) := match rest with
        | c :: rest => ([c.char], rest)
        | [] => ([], [])
      let (_, trail, rest) ← readIndentation? (some indent) 0 [] rest
      let (more, lead, trail, rest) ← readBlockLines? folded indent fuel lead trail startsBlank rest
      some (before ++ line.map (·.char) ++ more, lead, trail, rest)

/-- Reads a block scalar after its indicator; `parent` is the indentation around it. -/
def readBlockScalar? (folded : Bool) (parent : Int) (cs : List Cell) :
    Option (List Char × List Cell) := do
  let (chomping, increment, cs) ← readBlockHeader? cs
  let cs := skipComment cs
  if !atLineEnd cs then none
  else
    let cs := cs.drop 1
    let given : Option Nat := increment.map fun n =>
      if 0 ≤ parent then parent.toNat + n else n
    let (widest, trail, cs) ← readIndentation? given 0 [] cs
    let indent := given.getD (max (max widest (parent + 1).toNat) 1)
    let (text, lead, trail, cs) ← readBlockLines? folded indent (cs.length + 1) [] trail false cs
    let tail := match chomping with
      | .strip => []
      | .clip => lead
      | .keep => lead ++ trail
    some (text ++ tail, cs)

end Switchboard.Yaml
