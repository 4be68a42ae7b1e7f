import Switchboard.Http.ContentType
import Switchboard.Http.Exchange
import Switchboard.Text.Blank
import Switchboard.Text.Utf8

/-!
# Requests and replies as octets

A connection carries one request and one reply. The reply is read once the other side has closed
the connection. Its body ends where its length says, or it comes in pieces, each with its length in
front, or it is all that there is. Its charset is that of the content type.

Main definitions: `Request.octets` and `Reply.read?`.
-/

namespace Switchboard.Http

/-! ## Requests -/

/-- The machine and the port of an address, as a header field names them. -/
def hostField (u : Url) : String :=
  match u.authority with
  | some a => Url.authorityText a.withoutUser
  | none => ""

/-- A line with its end. -/
def wireLine (text : String) : String := text ++ "\r\n"

/-- A request as it is sent. -/
def Request.octets (r : Request) : List UInt8 :=
  let fields := ("host", hostField r.url) :: ("connection", "close") :: r.headers.entries
  let lines := ("GET " ++ r.target ++ " HTTP/1.1") :: fields.map fun f => f.1 ++ ": " ++ f.2
  Text.Utf8.encode (String.join ((lines ++ [""]).map wireLine)).toList

/-! ## Lines -/

/-- The first line without its end, and what follows. -/
def line? : List UInt8 → Option (List UInt8 × List UInt8)
  | 13 :: 10 :: rest => some ([], rest)
  | b :: rest => (line? rest).map fun p => (b :: p.1, p.2)
  | [] => none

theorem line?_length {bs head rest : List UInt8} (h : line? bs = some (head, rest)) :
    rest.length < bs.length := by
  fun_induction line? bs generalizing head with
  | case1 r =>
    obtain ⟨-, rfl⟩ := Prod.mk.inj (Option.some.inj h)
    simp only [List.length_cons]
    omega
  | case2 b r _ ih =>
    obtain ⟨p, hp, hq⟩ := Option.map_eq_some_iff.mp h
    obtain ⟨-, rfl⟩ := Prod.mk.inj hq
    have := ih hp
    simp only [List.length_cons]
    omega
  | case3 => cases h

/-- Octets as characters, one by one. -/
def plainText (bs : List UInt8) : List Char := bs.map fun b => Char.ofNat b.toNat

/-! ## Replies -/

/-- The status in the first line of a reply. -/
def statusOf? (line : List UInt8) : Option Nat :=
  match (plainText line).splitOn ' ' with
  | version :: status :: _ =>
    if "HTTP/1.".toList.isPrefixOf version && status.length = 3 then Decimal.readDigits? status
    else none
  | _ => none

/-- A header field from its line. -/
def fieldOf? (line : List UInt8) : Option (String × String) :=
  match (plainText line).span (· ≠ ':') with
  | (name, _ :: value) =>
    some (String.ofList (name.map Char.toLower), String.ofList (Text.trim value))
  | (_, []) => none

/-- The header fields up to the empty line, and what follows. -/
def readFields? (bs : List UInt8) : Option (Headers × List UInt8) :=
  match h : line? bs with
  | none => none
  | some ([], rest) => some (.empty, rest)
  | some (line, rest) =>
    have := line?_length h
    (readFields? rest).bind fun (headers, body) =>
      (fieldOf? line).map fun field => (headers.insert field.1 field.2, body)
termination_by bs.length

/-- The length in front of a piece; what follows a semicolon does not count. -/
def pieceLength? (line : List UInt8) : Option Nat :=
  let digits := Text.trim ((plainText line).takeWhile (· ≠ ';'))
  if digits.isEmpty then none
  else digits.foldl (fun sum c => do some ((← sum) * 16 + (← Percent.value? c))) (some 0)

/-- Joins the pieces of a body, up to the empty one. -/
def joinPieces? (bs : List UInt8) : Option (List UInt8) :=
  match h : line? bs with
  | none => none
  | some (line, rest) =>
    have := line?_length h
    match pieceLength? line with
    | none => none
    | some 0 => some []
    | some n =>
      if rest.length < n then none
      else (joinPieces? ((rest.drop n).drop 2)).map (rest.take n ++ ·)
termination_by bs.length
decreasing_by
  simp only [List.length_drop]
  omega

/-- The body of a reply. -/
def bodyOf? (headers : Headers) (bs : List UInt8) : Option (List UInt8) :=
  if headers.find? "transfer-encoding" = some "chunked" then joinPieces? bs
  else
    match headers.find? "content-length" with
    | none => some bs
    | some length =>
      match Decimal.readDigits? length.toList with
      | some n => if n ≤ bs.length then some (bs.take n) else none
      | none => none

/-- Whether a reply of this status has a body. -/
def hasBody (status : Nat) : Bool := status ≠ 204 && status ≠ 304

/-- The charset that a body is declared to be in, and UTF-8 if none is. -/
def charsetOf (others : String → Option Text.Charset) (headers : Headers) : Text.Charset :=
  match (headers.find? "content-type").bind charsetLabel? with
  | some label => .ofLabel others label
  | none => .utf8

/-- Reads all that the other side has sent. -/
def Reply.read? (others : String → Option Text.Charset) (bs : List UInt8) : Option Reply := do
  let (line, rest) ← line? bs
  let status ← statusOf? line
  let (headers, body) ← readFields? rest
  let charset := charsetOf others headers
  if hasBody status then some (.received status charset (← bodyOf? headers body))
  else some (.received status charset [])

end Switchboard.Http
