import LinkedSelect.Http.Server

/-!
# Settings from the environment

`server` builds a server from variables: the base URL has to be there; a certificate, a cookie and a number of
seconds may be. A variable whose octets are no text is like one that is not set. A malformed number of seconds is
reported before anything that `Http.Settings.build` finds.
-/

namespace LinkedSelect.Environment

/-- The variable with the base URL. -/
def baseUrl : String := "DCIM_BASE_URL"

/-- The variable with certificates to trust. -/
def certificates : String := "DCIM_CA"

/-- The variable with the cookie of a session. -/
def sessionCookie : String := "DCIM_SESSION_COOKIE"

/-- The variable with the seconds until a request is given up. -/
def timeoutSeconds : String := "DCIM_TIMEOUT_SECS"

/-- The value of decimal digits in ASCII, at least one. -/
def digits? (cs : List Char) : Option Nat :=
  if cs ≠ [] ∧ cs.all Char.isDigit then some (cs.foldl (fun n c => n * 10 + (c.toNat - 48)) 0) else none

/-- The least number of seconds that takes more than 64 bits. -/
def secondsBound : Nat :=
  0x10000000000000000

/-- A number below `secondsBound`: digits, perhaps behind a plus sign. -/
def seconds? (text : String) : Option Nat :=
  let digits :=
    match text.toList with
    | '+' :: cs => cs
    | cs => cs
  (digits? digits).filter (· < secondsBound)

/-- The seconds until a request is given up, if any are set. -/
def readTimeout (lookUp : String → Option String) : Except FetchError (Option Nat) :=
  match lookUp timeoutSeconds with
  | none => .ok none
  | some text =>
    match seconds? text with
    | none => .error (.config (.timeout text))
    | some n => .ok (some n)

/-- The settings that the variables hold, with a timeout in seconds. -/
def settings (lookUp : String → Option String) (timeout : Option Nat) : Http.Settings :=
  { certificates := (lookUp certificates).toList
    cookie := lookUp sessionCookie
    timeout := timeout.map (· * 1000) }

/-- Builds the server that the variables describe. -/
def server (lookUp : String → Option String) : Except FetchError Http.Server :=
  match lookUp baseUrl with
  | none => .error (.missingVariable baseUrl)
  | some base =>
    match readTimeout lookUp with
    | .error e => .error e
    | .ok timeout => (settings lookUp timeout).build base

end LinkedSelect.Environment
