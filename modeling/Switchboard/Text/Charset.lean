import Switchboard.Text.Utf8

/-!
# Text in a charset

Octets that should be text are read by the byte order mark in front of them, and by the charset that
is declared for them where there is none. The mark itself is dropped, and what is no character is
replaced.

Charsets go by many labels. Those with tables of their own, other than that of Western Europe, come
from outside: what a label stands for there is an argument of `Charset.ofLabel`.

Main definitions: `decodeMarked` and `Charset.ofLabel`.
-/

namespace Switchboard.Text

/-! ## Units of 16 bits -/

/-- Which octet of a pair is the high one. -/
inductive ByteOrder where
  | highFirst
  | lowFirst
  deriving Repr, DecidableEq

/-- The unit that a pair of octets is. -/
def ByteOrder.unit : ByteOrder → UInt8 → UInt8 → Nat
  | .highFirst, x, y => x.toNat * 256 + y.toNat
  | .lowFirst, x, y => y.toNat * 256 + x.toNat

/-- Reads units of 16 bits; a surrogate without its partner is replaced. -/
def decodeUnits : List Nat → List Char
  | [] => []
  | u :: rest =>
    if 0xD800 ≤ u && u < 0xE000 then
      match rest with
      | v :: more =>
        if u < 0xDC00 && 0xDC00 ≤ v && v < 0xE000 then
          Char.ofNat (0x10000 + (u - 0xD800) * 0x400 + (v - 0xDC00)) :: decodeUnits more
        else Utf8.replacement :: decodeUnits (v :: more)
      | [] => [Utf8.replacement]
    else Char.ofNat u :: decodeUnits rest

/-- Pairs of octets as units, and whether an octet is left without partner. -/
def units (order : ByteOrder) : List UInt8 → List Nat × Bool
  | x :: y :: rest =>
    let (us, odd) := units order rest
    (order.unit x y :: us, odd)
  | [_] => ([], true)
  | [] => ([], false)

/-- Reads pairs of octets. An octet or a surrogate that is left over at the end is replaced, both
together by one replacement. -/
def decodePairs (order : ByteOrder) (bytes : List UInt8) : List Char :=
  let (us, odd) := units order bytes
  let endsOpen := match us.getLast? with
    | some u => 0xD800 ≤ u && u < 0xDC00
    | none => false
  decodeUnits us ++ (if odd && !endsOpen then [Utf8.replacement] else [])

/-! ## Charsets -/

/-- How octets are read as characters. -/
inductive Charset where
  | utf8
  | utf16 (order : ByteOrder)
  /-- By a table or a procedure of its own. -/
  | other (decode : List UInt8 → List Char)

namespace Charset

/-- The text of octets without a mark. -/
def decode : Charset → List UInt8 → List Char
  | .utf8, bytes => Utf8.decodeLenient bytes
  | .utf16 order, bytes => decodePairs order bytes
  | .other decode, bytes => decode bytes

/-- Code points of the octets from 0x80 to 0x9F in the charset of Western Europe. -/
def westernPoints : List Nat := [
  0x20AC, 0x81, 0x201A, 0x192, 0x201E, 0x2026, 0x2020, 0x2021,
  0x2C6, 0x2030, 0x160, 0x2039, 0x152, 0x8D, 0x17D, 0x8F,
  0x90, 0x2018, 0x2019, 0x201C, 0x201D, 0x2022, 0x2013, 0x2014,
  0x2DC, 0x2122, 0x161, 0x203A, 0x153, 0x9D, 0x17E, 0x178]

/-- The charset of Western Europe: one octet for each character, and apart from 32 of them the octet
is the code point. -/
def western : Charset :=
  .other fun bytes => bytes.map fun b =>
    Char.ofNat (if 0x80 ≤ b.toNat && b.toNat < 0xA0 then westernPoints.getD (b.toNat - 0x80) 0
      else b.toNat)

/-- Labels of UTF-8. -/
def utf8Labels : List String :=
  ["unicode-1-1-utf-8", "unicode11utf8", "unicode20utf8", "utf-8", "utf8", "x-unicode20utf8"]

/-- Labels of UTF-16 with the high octet first. -/
def highFirstLabels : List String := ["unicodefffe", "utf-16be"]

/-- Labels of UTF-16 with the low octet first. -/
def lowFirstLabels : List String :=
  ["csunicode", "iso-10646-ucs-2", "ucs-2", "unicode", "unicodefeff", "utf-16", "utf-16le"]

/-- Labels of the charset of Western Europe. -/
def westernLabels : List String :=
  ["ansi_x3.4-1968", "ascii", "cp1252", "cp819", "csisolatin1", "ibm819", "iso-8859-1",
    "iso-ir-100", "iso8859-1", "iso88591", "iso_8859-1", "iso_8859-1:1987", "l1", "latin1",
    "us-ascii", "windows-1252", "x-cp1252"]

/-- White space around a label does not count. -/
def isLabelSpace (c : Char) : Bool :=
  c = ' ' || c = '\t' || c = '\n' || c = '\x0c' || c = '\r'

/-- The charset of a label in any case, and UTF-8 for a label that stands for none. -/
def ofLabel (others : String → Option Charset) (label : String) : Charset :=
  let trimmed := ((label.toList.dropWhile isLabelSpace).reverse.dropWhile isLabelSpace).reverse
  let name := String.ofList (trimmed.map Char.toLower)
  if utf8Labels.contains name then .utf8
  else if highFirstLabels.contains name then .utf16 .highFirst
  else if lowFirstLabels.contains name then .utf16 .lowFirst
  else if westernLabels.contains name then western
  else (others name).getD .utf8

end Charset

/-- The text of octets that are declared to be in a charset. -/
def decodeMarked (charset : Charset) : List UInt8 → List Char
  | 0xEF :: 0xBB :: 0xBF :: rest => Utf8.decodeLenient rest
  | 0xFE :: 0xFF :: rest => decodePairs .highFirst rest
  | 0xFF :: 0xFE :: rest => decodePairs .lowFirst rest
  | bytes => charset.decode bytes

end Switchboard.Text
