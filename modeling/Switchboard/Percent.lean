import Switchboard.Text.Utf8

/-!
# Percent encoding

A character that may not stand for itself is written as the octets of its UTF-8 form, each as a
percent sign and two digits. Which characters stand for themselves depends on the part of an
address; a character beyond ASCII never does.
-/

namespace Switchboard.Percent

/-- An upper-case digit of base 16. -/
def digit (n : Nat) : Char :=
  if n < 10 then Char.ofNat (48 + n) else Char.ofNat (55 + n)

/-- The value of a digit of base 16. -/
def value? (c : Char) : Option Nat :=
  let n := c.toNat
  if 48 ≤ n && n ≤ 57 then some (n - 48)
  else if 97 ≤ n && n ≤ 102 then some (n - 87)
  else if 65 ≤ n && n ≤ 70 then some (n - 55)
  else none

/-- An octet with its percent sign. -/
def octet (b : UInt8) : List Char :=
  ['%', digit (b.toNat / 16), digit (b.toNat % 16)]

/-- A character for itself or by its octets. -/
def encodeChar (keep : Char → Bool) (c : Char) : List Char :=
  if keep c then [c] else (String.utf8EncodeChar c).flatMap octet

/-- Encodes every character that is not kept. -/
def encode (keep : Char → Bool) (cs : List Char) : List Char :=
  cs.flatMap (encodeChar keep)

/-- The octets of a text, where every percent sign with two digits stands for one octet. -/
def decode : List Char → List UInt8
  | '%' :: c :: d :: rest =>
    match value? c, value? d with
    | some x, some y => UInt8.ofNat (x * 16 + y) :: decode rest
    | _, _ => String.utf8EncodeChar '%' ++ decode (c :: d :: rest)
  | c :: rest => String.utf8EncodeChar c ++ decode rest
  | [] => []

/-! ## What stands for itself -/

/-- ASCII without control characters. -/
def plain (c : Char) : Bool :=
  0x20 ≤ c.toNat && c.toNat ≤ 0x7E

/-- Kept in fragments. -/
def inFragment (c : Char) : Bool :=
  plain c && !(c = ' ' || c = '"' || c = '<' || c = '>' || c = '\x60')

/-- Kept in path segments. -/
def inPath (c : Char) : Bool :=
  inFragment c && !(c = '#' || c = '?' || c = '{' || c = '}')

/-- Kept in user names and passwords. -/
def inUser (c : Char) : Bool :=
  inPath c && !(c = '/' || c = ':' || c = ';' || c = '=' || c = '@' || c = '[' || c = '\\' ||
    c = ']' || c = '^' || c = '|')

/-- Kept in queries. -/
def inQuery (c : Char) : Bool :=
  plain c && !(c = ' ' || c = '"' || c = '#' || c = '<' || c = '>')

/-- Kept in queries of special schemes. -/
def inSpecialQuery (c : Char) : Bool :=
  inQuery c && c ≠ '\''

/-- Kept in form data. -/
def inForm (c : Char) : Bool :=
  c.isAlphanum || c = '*' || c = '-' || c = '.' || c = '_'

end Switchboard.Percent
