import Switchboard.Percent

/-!
# Form data

Names and values as one text, the way queries carry them: pairs are set apart by `&`, a name from
its value by `=`, a space is a `+`, and everything but letters, digits and `*-._` is percent
encoded. So no name or value can reach beyond its pair.
-/

namespace Switchboard.Form

/-- One character of a name or a value. -/
def encodeChar (c : Char) : List Char :=
  if c = ' ' then ['+'] else Percent.encodeChar Percent.inForm c

/-- A name or a value. -/
def encodeText (s : String) : List Char :=
  s.toList.flatMap encodeChar

/-- A name and its value. -/
def encodePair (pair : String × String) : List Char :=
  encodeText pair.1 ++ '=' :: encodeText pair.2

/-- Adds pairs to a text that may hold some already. -/
def append (text : List Char) : List (String × String) → List Char
  | [] => text
  | pair :: pairs =>
    let separator := if text.isEmpty then [] else ['&']
    append (text ++ separator ++ encodePair pair) pairs

/-- Pairs as form data. -/
def encode (pairs : List (String × String)) : List Char :=
  append [] pairs

end Switchboard.Form
