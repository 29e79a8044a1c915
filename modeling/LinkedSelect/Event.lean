import LinkedSelect.Session

/-!
# Events

An `Event` is what happens to a session from outside: a call is started, a request that is held back is answered, or a
waiting call is dropped. The first two may carry another call for the gap behind the first load that ends.

* `Session.handle` lets a session handle one event;
* `Session.after` is the session after a list of them (`after_append`).
-/

namespace LinkedSelect

/-- What happens to a session from outside. -/
inductive Event
  | start (call : Call) (gap : Option Call)
  /-- the request with this number gets this reply -/
  | release (request : Nat) (reply : Reply) (gap : Option Call)
  /-- the waiting call with this number is dropped -/
  | cancel (number : Nat)

namespace Session

variable {σ : Type} (src : Source σ)

/-- Handles an event. Tells whether a call was started in the gap. -/
def handle (s : Session σ) : Event → Session σ × Bool
  | .start call none => (s.start src call, false)
  | .start call (some gap) => s.startWithGap src gap call
  | .release request reply none => (s.release src request reply, false)
  | .release request reply (some gap) => s.releaseWithGap src gap request reply
  | .cancel number => (s.cancel number, false)

/-- The session after some events. -/
def after (s : Session σ) (events : List Event) : Session σ :=
  events.foldl (fun s e => (s.handle src e).1) s

/-- After the events of two lists, a session is where the second takes it from where the first has. -/
theorem after_append (s : Session σ) (first second : List Event) :
    s.after src (first ++ second) = (s.after src first).after src second :=
  List.foldl_append

end Session

end LinkedSelect
