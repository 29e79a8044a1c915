import LinkedSelect.Choice
import LinkedSelect.Json.Fault
import LinkedSelect.Url.Error

/-!
# Why a fetch fails

* `FetchError` lists what can go wrong on the way from a configuration to a list of choices; `message?` words it,
  except for errors of the transport, whose wording belongs to the platform;
* `Failure` is what is kept of an error: the status of an answer that is not a success, a problem of the transport,
  a body that is no list, or anything else by its wording.
-/

namespace LinkedSelect

/-- What can go wrong inside the HTTP client. -/
inductive ClientError
  /-- an answer whose status is an error -/
  | status (code : Nat)
  /-- a body that is no choice list -/
  | decode (error : Json.Error)
  /-- no complete answer, or none possible -/
  | transport
  deriving DecidableEq, Repr

/-- What can be wrong with a configuration. -/
inductive ConfigError
  /-- the cookie is no header value -/
  | cookie
  /-- this is no header name -/
  | headerName (name : String)
  /-- the value of this header is none -/
  | headerValue (name : String)
  /-- this is no number of seconds -/
  | timeout (text : String)
  deriving DecidableEq, Repr

/-- The wording of an error in a configuration. -/
def ConfigError.text : ConfigError → String
  | .cookie => "Failed to set Cookie header"
  | .headerName name => "Invalid header name '" ++ name ++ "'"
  | .headerValue name => "Invalid value for header '" ++ name ++ "'"
  | .timeout text => "DCIM_TIMEOUT_SECS is not a number: " ++ text

/-- What can go wrong with a fetch or with its configuration. -/
inductive FetchError
  /-- the server answered with this status and its reason -/
  | status (code : Nat) (reason : String)
  /-- a text is no choice list -/
  | json (error : Json.Error)
  /-- an address is no URL -/
  | url (error : Url.ParseError)
  /-- the HTTP client failed -/
  | client (error : ClientError)
  /-- an environment variable is not set -/
  | missingVariable (name : String)
  /-- the configuration is faulty -/
  | config (error : ConfigError)
  | general (text : String)
  deriving DecidableEq, Repr

/-- What is kept of an error. -/
inductive Failure
  | status (code : Nat)
  | transport
  | decode (text : String)
  | other (text : String)
  deriving DecidableEq, Repr

namespace ClientError

/-- The wording of an error in a body. -/
def decodeText (e : Json.Error) : String :=
  "error decoding response body: " ++ e.message

/-- What is kept of an error of the client. -/
def failure : ClientError → Failure
  | .status code => .status code
  | .decode e => .decode (decodeText e)
  | .transport => .transport

end ClientError

namespace FetchError

/-- The wording of an error, if it does not belong to the platform. -/
def message? : FetchError → Option String
  | .status code reason => some ("HTTP failed " ++ toString code ++ ", " ++ reason)
  | .json e => some ("Serde JSON error: " ++ e.message)
  | .url e => some ("URL: " ++ e.text)
  | .client (.decode e) => some ("Reqwest: " ++ ClientError.decodeText e)
  | .client _ => none
  | .missingVariable name => some ("Missing environment variable '" ++ name ++ "'")
  | .config e => some ("Error " ++ e.text)
  | .general text => some ("Error " ++ text)

/-- What is kept of an error. -/
def failure : FetchError → Failure
  | .status code _ => .status code
  | .json e => .decode e.message
  | .client e => e.failure
  | e => .other (e.message?.getD "")

end FetchError

/-- What a fetch gives: the choices, or an error. -/
abbrev Reply :=
  Except FetchError (List Choice)

end LinkedSelect
