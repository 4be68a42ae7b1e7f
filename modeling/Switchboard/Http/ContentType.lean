import Switchboard.Http.Header

/-!
# Content types

The header field that says what a body is: a type and a subtype, and then parameters, of which only
the charset matters here. A field that does not keep to the syntax says nothing.

Main definition: `charsetLabel?`.
-/

namespace Switchboard.Http

/-- Whether a value of a header field can be read as text. -/
def isPlainValue (value : List Char) : Bool :=
  value.all fun c => c = '\t' || (0x20 ≤ c.toNat && c.toNat < 0x7F)

/-- Splits off a word that is not empty. -/
def word? (cs : List Char) : Option (List Char × List Char) :=
  match cs.span isNameChar with
  | ([], _) => none
  | (word, rest) => some (word, rest)

/-- Splits at the next quotation mark; a tab may not stand in front of it. -/
def cutQuote? (cs : List Char) : Option (List Char × List Char) :=
  match cs.span fun c => c ≠ '"' && c ≠ '\t' with
  | (value, '"' :: rest) => some (value, rest)
  | _ => none

/-- Reads a value in quotes; its first character may itself be a quotation mark. Only spaces may
stand between the value and the next parameter. -/
def quotedValue? : List Char → Option (List Char × List Char)
  | [] | '\t' :: _ => none
  | c :: rest => do
    let (value, after) ← cutQuote? rest
    match after.dropWhile (· = ' ') with
    | [] => some (c :: value, [])
    | ';' :: more => some (c :: value, more)
    | _ => none

/-- Reads a value without quotes. Nothing at all is a value only at the end. -/
def plainValue? (cs : List Char) : Option (List Char × List Char) :=
  match cs.span isNameChar with
  | (value, []) => some (value, [])
  | ([], _) => none
  | (value, ';' :: rest) => some (value, rest)
  | _ => none

/-- Reads a parameter, and what follows its semicolon. -/
def parameter? (cs : List Char) : Option ((String × String) × List Char) := do
  let (name, rest) ← word? cs
  let (value, after) ← match rest with
    | '=' :: '"' :: rest => quotedValue? rest
    | '=' :: rest => plainValue? rest
    | _ => none
  some ((String.ofList (name.map Char.toLower), String.ofList value), after)

/-- Reads parameters; the fuel is the number of characters. Spaces in front of one do not count. -/
def parametersFuel? : Nat → List Char → Option (List (String × String))
  | 0, _ => some []
  | fuel + 1, cs =>
    match cs.dropWhile (· = ' ') with
    | [] => some []
    | cs => do
      let (parameter, rest) ← parameter? cs
      let parameters ← parametersFuel? fuel rest
      some (parameter :: parameters)

/-- The parameters behind type and subtype; a type alone has none. -/
def parameters? (value : List Char) : Option (List (String × String)) := do
  let (_, rest) ← word? value
  match rest with
  | '/' :: rest =>
    match rest.span isNameChar with
    | (_, []) => some []
    | (_ :: _, ';' :: rest) => parametersFuel? rest.length rest
    | _ => none
  | _ => none

/-- The label of the charset in a content type. -/
def charsetLabel? (value : String) : Option String := do
  if isPlainValue value.toList then
    let parameters ← parameters? value.toList
    (parameters.find? fun p => p.1 = "charset").map (·.2)
  else none

end Switchboard.Http
