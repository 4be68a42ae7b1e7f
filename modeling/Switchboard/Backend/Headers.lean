import Switchboard.Base64
import Switchboard.Config.Basic
import Switchboard.Error
import Switchboard.Http.Header
import Switchboard.Text.Utf8
import Switchboard.Url.Host

/-!
# Header fields of a backend

What is sent along with every request to a backend: which documents are accepted, the configured
fields, and the credentials. The configured fields come in the order of their spelling, a later one
takes the place of an earlier one of the same name, and the credentials come last.
-/

namespace Switchboard

/-- Why a backend cannot be used as configured. -/
inductive ConnectError where
  | noSettings
  | noUrl
  | url (error : UrlError)
  | scheme (name : String)
  | headerName (spelling : String)
  | headerValue (name : String)
  | credentials
  deriving Repr, DecidableEq

/-- The failure of a service that cannot use its backend. -/
def ConnectError.failure (service : String) : ConnectError → Failure
  | .noSettings => .of ("no backend configuration for '" ++ service ++ "'")
  | .noUrl => .of ("no url configured for '" ++ service ++ "'")
  | .url e => (Failure.of e.message).within ("invalid url for '" ++ service ++ "'")
  | .scheme name =>
    (Failure.of ("unsupported scheme '" ++ name ++ "'")).within
      ("invalid url for '" ++ service ++ "'")
  | .headerName spelling =>
    (Failure.of "invalid HTTP header name").within ("invalid header name '" ++ spelling ++ "'")
  | .headerValue name =>
    (Failure.of "failed to parse header value").within
      ("invalid value for header '" ++ name ++ "'")
  | .credentials => (Failure.of "failed to parse header value").within "invalid credentials"

/-- The value of a field with user name and password. -/
def basicValue (username password : String) : String :=
  "Basic " ++ String.ofList (Base64.encode Base64.standard
    (Text.Utf8.encode (username ++ ":" ++ password).toList))

/-- The value of the field that carries credentials. -/
def Credentials.headerValue : Credentials → String
  | .bearer token => "Bearer " ++ token
  | .basic username password => basicValue username password

namespace BackendConfig

/-- Adds a configured field. -/
def addHeader (headers : Http.Headers) (field : String × String) :
    Except ConnectError Http.Headers :=
  match Http.headerName? field.1 with
  | none => .error (.headerName field.1)
  | some name =>
    if Http.isHeaderValue field.2 then .ok (headers.insert name field.2)
    else .error (.headerValue name)

/-- Adds the credentials. -/
def addCredentials (headers : Http.Headers) : Option Credentials → Except ConnectError Http.Headers
  | none => .ok headers
  | some credentials =>
    if Http.isHeaderValue credentials.headerValue then
      .ok (headers.insert "authorization" credentials.headerValue)
    else .error .credentials

/-- All fields that are sent with every request. -/
def requestHeaders (c : BackendConfig) : Except ConnectError Http.Headers := do
  let headers ← c.headers.entries.foldlM addHeader (NameMap.empty.insert "accept" "application/json")
  addCredentials headers c.auth

end BackendConfig

end Switchboard
