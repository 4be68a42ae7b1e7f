import Switchboard.Http.Header
import Switchboard.Text.Charset
import Switchboard.Url.Basic

/-!
# Requests and replies

Every request asks for a document and has no body. The client does not send it to just any address:
it has to be one of HTTP, and it has to fit into a request. A reply is either an answer of the other
side or the news that there is none.
-/

namespace Switchboard.Http

/-- A request for a document. -/
structure Request where
  url : Url
  headers : Headers
  deriving Repr, DecidableEq

namespace Request

/-- What the request asks the other side for: the path and the query. -/
def target (r : Request) : String :=
  Url.pathText r.url.path ++ Url.queryText r.url.query

/-- Whether the client can ask the address at all: it is one of HTTP and names a machine. -/
def isAskable (r : Request) : Bool :=
  (r.url.scheme = "http" || r.url.scheme = "https") && r.url.hasHost

/-- Most octets of an address that is sent. -/
def maxAddress : Nat := 65534

/-- Whether a character can be sent as part of a host. An address takes the other four as well. -/
def isHostChar (c : Char) : Bool := !"\"\x60\x7b\x7d".toList.contains c

/-- Whether the client can write the address into a request. -/
def isWritable (r : Request) : Bool :=
  decide (r.url.text.utf8ByteSize ≤ maxAddress) &&
    match r.url.authority with
    | some a => a.host.text.toList.all isHostChar
    | none => true

/-- What the client has against sending the request, if anything. -/
def refusal? (r : Request) : Option String :=
  if !r.isAskable then some "URL scheme is not allowed"
  else if !r.isWritable then some "Parsed Url is not a valid Uri"
  else none

end Request

/-- What comes of a request. -/
inductive Reply where
  /-- Nobody answered. -/
  | refused (reason : String)
  /-- An answer, with the charset that its text is declared to be in. -/
  | received (status : Nat) (charset : Text.Charset) (body : List UInt8)

/-- An answer without a declared charset. -/
def Reply.answered (status : Nat) (body : List UInt8) : Reply := .received status .utf8 body

end Switchboard.Http
