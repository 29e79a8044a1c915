import LinkedSelect.Http.Header
import LinkedSelect.Url.Basic

/-!
# The network

A `Get` is what a client sends. A `Network` answers it, knowing what the same fetch has sent before: there is no
connection, plain or secured as the URL asks for, or it ends without a complete answer, or there is a `Response`.
-/

namespace LinkedSelect.Http

/-- A request by the method `GET`. -/
structure Get where
  url : Url
  headers : Headers
  deriving DecidableEq, Repr

/-- The header fields as they are sent, with the host. -/
def Get.sentHeaders (g : Get) : Headers :=
  if (g.headers.get? "host").isSome then g.headers else g.headers.set "host" g.url.hostText

/-- An answer. -/
structure Response where
  status : Nat
  /-- names in any case, in order, repeated or not -/
  headers : List (String × String) := []
  body : List UInt8 := []
  /-- the body was not cut short -/
  complete : Bool := true
  deriving DecidableEq, Repr

/-- The values of a header in any case of its name. -/
def Response.values (r : Response) (name : String) : List String :=
  (r.headers.filter fun (n, _) => n.toList.map Char.toLower = name.toList).map (·.2)

/-- What becomes of a request. -/
inductive Answer
  /-- there is no connection, so nothing is sent -/
  | unreachable
  /-- the request is sent, and the connection ends or the time is over -/
  | dropped
  | response (r : Response)
  deriving DecidableEq, Repr

/-- Answers a request, given those that the same fetch has sent before. -/
abbrev Network :=
  List Get → Get → Answer

namespace Network

/-- An answer that there is nothing here. -/
def notFound : Answer :=
  .response { status := 404 }

/-- A network without any connection. -/
def offline : Network :=
  fun _ _ => .unreachable

/-- There are no secured connections. -/
def IsPlain (net : Network) : Prop :=
  ∀ sent get, get.url.scheme ≠ "http" → net sent get = .unreachable

/-- Gives one answer after the other. -/
def script (answers : List Answer) : Network :=
  fun earlier _ => answers.getD earlier.length notFound

end Network

end LinkedSelect.Http
