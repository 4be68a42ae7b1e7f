import Switchboard.Text.Blank

/-!
# Log filters

What to log is told by directives between commas. A directive is a level, or a target, which may be
followed by a span in brackets and by a level after an equals sign. Only whether a filter makes
sense is of interest here.
-/

namespace Switchboard.LogFilter

/-- Names of the levels; a level may also be a digit up to 5. -/
def levelNames : List String := ["trace", "debug", "info", "warn", "error", "off"]

/-- Whether a text is a level; no text at all is one, too. -/
def isLevel (cs : List Char) : Bool :=
  let lower := String.ofList (cs.map Char.toLower)
  cs.isEmpty || levelNames.contains lower || ["0", "1", "2", "3", "4", "5"].contains lower

/-- Whether a text can follow a target or a span: nothing, or a level. -/
def isEnd : List Char → Bool
  | [] => true
  | '=' :: level => isLevel level
  | _ => false

/-- Whether a text is the rest of a span, after the opening bracket: a name and fields in braces,
either of which may be left out. -/
def isSpanRest (cs : List Char) : Bool :=
  match cs.span fun c => c ≠ ']' && c ≠ '\x7b' with
  | (_, ']' :: rest) => isEnd rest
  | (_, _ :: fields) =>
    match fields.span (· ≠ '\x7d') with
    | (field, _ :: ']' :: rest) => !field.isEmpty && isEnd rest
    | _ => false
  | (_, []) => false

/-- Whether a character can start a target. -/
def startsTarget (c : Char) : Bool :=
  c.isAlphanum || c = '-' || c = ':' || c = '_' || decide (0x7F < c.toNat)

/-- Whether a text is a directive. -/
def isDirective (cs : List Char) : Bool :=
  match Text.trim cs with
  | '[' :: rest => isSpanRest rest
  | c :: rest =>
    startsTarget c &&
      match rest.span fun d => d ≠ '=' && d ≠ '[' with
      | (_, '[' :: span) => isSpanRest span
      | (_, after) => isEnd after
  | [] => false

/-- Whether a text is a filter. Empty directives do not count. -/
def isValid (text : String) : Bool :=
  ((text.toList.splitOn ',').filter (!·.isEmpty)).all isDirective

end Switchboard.LogFilter
