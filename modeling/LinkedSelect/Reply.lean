import LinkedSelect.Http.Status
import LinkedSelect.Json.ChoiceList
import LinkedSelect.Failure
import LinkedSelect.Url.Parse

/-!
# Where replies come from

A reply is the list of choices that a text holds, or an error. `ofJson` reads a text by itself and `ofBody` the body
of an answer; the others are the replies of addresses and status codes, which hold no choices.
-/

namespace LinkedSelect.Reply

/-- The choices that a text lists. -/
def ofJson (text : List UInt8) : Reply :=
  (Json.ChoiceList.decode text).mapError .json

/-- The choices that the body of an answer lists. -/
def ofBody (body : List UInt8) : Reply :=
  (Json.ChoiceList.decode body).mapError fun e => .client (.decode e)

/-- No choices, or the error of an address that is no absolute URL. -/
def ofAddress (text : String) : Reply :=
  match Url.parse text with
  | .ok _ => .ok []
  | .error e => .error (.url e)

/-- No choices, or the error of a client that is asked for an address without a host. -/
def ofTarget (text : String) : Reply :=
  match Url.parse text with
  | .ok url => if url.hasHost then .ok [] else .error (.client .transport)
  | .error _ => .error (.client .transport)

/-- No choices, or the error of a client that takes some status codes for errors. -/
def ofStatus (code : Nat) : Reply :=
  if Http.Status.isError code then .error (.client (.status code)) else .ok []

end LinkedSelect.Reply
