import Switchboard.Decimal
import Switchboard.Percent
import Switchboard.Url.DomainName

/-!
# Hosts

The host of an address: a name, or the number of a machine in its 32-bit or its 128-bit form. A
name whose last label is a number is a 32-bit number or nothing.
-/

namespace Switchboard

/-- Why a text is no address. -/
inductive UrlError where
  | relative
  | emptyHost
  | port
  | ipv4
  | ipv6
  | domainName
  | hostCharacter
  deriving Repr, DecidableEq

def UrlError.message : UrlError → String
  | .relative => "relative URL without a base"
  | .emptyHost => "empty host"
  | .port => "invalid port number"
  | .ipv4 => "invalid IPv4 address"
  | .ipv6 => "invalid IPv6 address"
  | .domainName => "invalid international domain name"
  | .hostCharacter => "invalid domain character"

/-- The host of an address. -/
inductive Host where
  | domain (name : String)
  | ipv4 (value : UInt32)
  /-- Eight pieces of 16 bits. -/
  | ipv6 (pieces : List UInt16)
  deriving Repr, DecidableEq

namespace Host

/-! ## The 32-bit form -/

/-- The digits of a numeral and their base: `0x` announces base 16, another leading `0` base 8. -/
def numeralBase (cs : List Char) : Nat × List Char :=
  match cs with
  | '0' :: 'x' :: rest => (16, rest)
  | '0' :: 'X' :: rest => (16, rest)
  | '0' :: c :: rest => (8, c :: rest)
  | _ => (10, cs)

/-- The value of a part of the 32-bit form; no digits after a base stand for zero. -/
def numeral? (cs : List Char) : Option Nat :=
  if cs.isEmpty then none
  else
    let (base, digits) := numeralBase cs
    digits.foldl (fun sum c => do
      let n ← sum
      let d ← Percent.value? c
      if d < base then some (n * base + d) else none) (some 0)

/-- Labels without the empty one that a dot at the end leaves. -/
def labels (name : List Char) : List (List Char) :=
  let parts := name.splitOn '.'
  match parts.getLast? with
  | some [] => if parts.length = 1 then parts else parts.dropLast
  | _ => parts

/-- Whether a name has to be read as a number. -/
def endsInNumber (name : List Char) : Bool :=
  match (labels name).getLast? with
  | some last => !last.isEmpty && (last.all Char.isDigit || (numeral? last).isSome)
  | none => false

/-- Adds up the parts of the 32-bit form: the last one fills all octets that are left. -/
def sumParts? (parts : List Nat) (weight : Nat) : Option Nat :=
  match parts with
  | [] => none
  | [last] => if last < weight then some last else none
  | part :: rest =>
    if part < 256 then (sumParts? rest (weight / 256)).map (part * (weight / 256) + ·) else none

/-- Reads the 32-bit form: up to four parts. -/
def readIpv4 (name : List Char) : Except UrlError Host :=
  let parts := labels name
  if parts.length ≤ 4 then
    match (parts.mapM numeral?).bind (sumParts? · 0x100000000) with
    | some n => .ok (.ipv4 n.toUInt32)
    | none => .error .ipv4
  else .error .ipv4

/-! ## The 128-bit form -/

/-- A piece of one to four digits. -/
def piece? (cs : List Char) : Option Nat :=
  if cs.isEmpty || decide (4 < cs.length) then none
  else cs.foldl (fun sum c => do some ((← sum) * 16 + (← Percent.value? c))) (some 0)

/-- A decimal part without leading zeros, below 256. -/
def octet? (cs : List Char) : Option Nat :=
  match cs with
  | '0' :: _ :: _ => none
  | _ => (Decimal.readDigits? cs).filter (· < 256)

/-- The last two pieces, written as four decimal parts. -/
def dotted? (cs : List Char) : Option (List Nat) :=
  match (cs.splitOn '.').mapM octet? with
  | some [a, b, c, d] => some [a * 256 + b, c * 256 + d]
  | _ => none

/-- Pieces between colons. -/
def pieces? (lastMayBeDotted : Bool) : List (List Char) → Option (List Nat)
  | [] => some []
  | [last] =>
    if lastMayBeDotted && last.contains '.' then dotted? last else (piece? last).map ([·])
  | cs :: rest => do
    let n ← piece? cs
    let ns ← pieces? lastMayBeDotted rest
    some (n :: ns)

/-- Pieces of a text that may be empty. -/
def sidePieces? (lastMayBeDotted : Bool) (cs : List Char) : Option (List Nat) :=
  if cs.isEmpty then some [] else pieces? lastMayBeDotted (cs.splitOn ':')

/-- Cuts at the first double colon. -/
def cutDoubleColon? : List Char → Option (List Char × List Char)
  | ':' :: ':' :: rest => some ([], rest)
  | c :: rest => (cutDoubleColon? rest).map fun (left, right) => (c :: left, right)
  | [] => none

/-- Reads the 128-bit form. A double colon stands for one zero piece or more. -/
def readIpv6 (cs : List Char) : Except UrlError Host :=
  let pieces : Option (List Nat) := match cutDoubleColon? cs with
    | some (left, right) => do
      let before ← sidePieces? false left
      let after ← sidePieces? true right
      let count := before.length + after.length
      if count < 8 then some (before ++ List.replicate (8 - count) 0 ++ after) else none
    | none => (pieces? true (cs.splitOn ':')).filter fun ns => ns.length = 8
  match pieces with
  | some ns => .ok (.ipv6 (ns.map Nat.toUInt16))
  | none => .error .ipv6

/-! ## Names -/

/-- Reads what stands between brackets. -/
def readBracketed (cs : List Char) : Except UrlError Host :=
  match cs.reverse with
  | ']' :: inner => readIpv6 inner.reverse
  | _ => .error .ipv6

/-- Reads the host of a special scheme. -/
def read (cs : List Char) : Except UrlError Host :=
  match cs with
  | '[' :: rest => readBracketed rest
  | _ =>
    match (Text.Utf8.decode? (Percent.decode cs)).bind DomainName.toAscii? with
    | none => .error .domainName
    | some [] => .error .emptyHost
    | some name => if endsInNumber name then readIpv4 name else .ok (.domain (String.ofList name))

/-- Characters that no host may hold, whatever the scheme. -/
def isRefused (c : Char) : Bool :=
  "\x00\t\n\r #/:<>?@[\\]^|".toList.contains c

/-- Reads the host of any other scheme. -/
def readOpaque (cs : List Char) : Except UrlError Host :=
  match cs with
  | '[' :: rest => readBracketed rest
  | _ =>
    if cs.any isRefused then .error .hostCharacter
    else .ok (.domain (String.ofList (Percent.encode Percent.plain cs)))

/-! ## Text -/

/-- The parts of the 32-bit form. -/
def ipv4Text (value : UInt32) : List Char :=
  let n := value.toNat
  [n / 16777216, n / 65536 % 256, n / 256 % 256, n % 256].map Decimal.write |>.intersperse ['.']
    |>.flatten

/-- Where the longest run of two or more zeros starts and how long it is; the first of several. -/
def zeroRun (pieces : List UInt16) : Nat × Nat :=
  let run (start : Nat) : Nat := ((pieces.drop start).takeWhile (· = 0)).length
  (List.range pieces.length).foldl
    (fun best start => if max best.2 1 < run start then (start, run start) else best) (0, 0)

private def pieceText (n : UInt16) : List Char :=
  Nat.toDigits 16 n.toNat

private def joined (pieces : List UInt16) : List Char :=
  ((pieces.map pieceText).intersperse [':']).flatten

/-- The pieces of the 128-bit form, with a double colon for the longest run of zeros. -/
def ipv6Text (pieces : List UInt16) : List Char :=
  let (start, count) := zeroRun pieces
  if count = 0 then joined pieces
  else joined (pieces.take start) ++ ':' :: ':' :: joined (pieces.drop (start + count))

/-- The text of a host. -/
def text : Host → String
  | .domain name => name
  | .ipv4 value => String.ofList (ipv4Text value)
  | .ipv6 pieces => String.ofList ('[' :: ipv6Text pieces ++ [']'])

end Host

end Switchboard
