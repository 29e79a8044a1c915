import LinkedSelect.Call

/-!
# Sessions

A `Session` is a form with the calls that wait in it and what has gone over the wire so far. A `Source` answers a
request at once or holds it back.

* `run` takes a call section by section until it ends or is held back;
* `runWithGap` does the same, but when the first load returns it starts another call and runs that one, before the
  first call goes on: this is the moment between a restored area and the load of its racks;
* `start`, `release` and `cancel` are what can happen to a session from outside.
-/

namespace LinkedSelect

/-- Answers requests. A request without a reply is held back. -/
structure Source (σ : Type) where
  fetch : σ → Request → Option Reply × σ

/-- What has gone over the wire, and how calls have ended. -/
structure Traffic (σ : Type) where
  /-- the state of the source -/
  source : σ
  /-- the requests that were sent, in order; their positions number them -/
  requests : List Request := []
  /-- the calls that have ended, in order, with their number and their result -/
  ended : List (Nat × Option Outcome) := []
  /-- how many calls were started -/
  started : Nat := 0

/-- A call whose request is held back. -/
structure Waiting where
  /-- the number of the call -/
  number : Nat
  call : Call
  /-- the number of the request -/
  request : Nat
  pending : Pending
  deriving DecidableEq, Repr

/-- A form and the calls on it. -/
structure Session (σ : Type) extends Traffic σ where
  form : Form
  waiting : List Waiting := []

namespace Session

variable {σ : Type} (src : Source σ)

/-- Runs one section of a call, together with its reply if the source has one; no activity is left if the call has
ended or is held back. -/
def step (s : Session σ) (number : Nat) (call : Call) (a : Activity) : Session σ × Option Activity :=
  match a with
  | .ended outcome => ({ s with ended := s.ended ++ [(number, call.result outcome)] }, none)
  | .waiting pending =>
    let (reply, source) := src.fetch s.source pending.request
    let request := s.requests.length
    let s := { s with source, requests := s.requests ++ [pending.request] }
    match reply with
    | none => ({ s with waiting := s.waiting ++ [⟨number, call, request, pending⟩] }, none)
    | some reply =>
      let (form, a) := Activity.resume s.form pending reply
      ({ s with form }, some a)
  | a =>
    let (form, a) := a.advance s.form
    ({ s with form }, some a)

theorem rank_step_lt {s t : Session σ} {number : Nat} {call : Call} {a b : Activity}
    (h : s.step src number call a = (t, some b)) : b.rank < a.rank := by
  unfold step at h
  split at h
  · cases h
  · dsimp only at h
    split at h <;> cases h
    exact Activity.rank_resume_lt ..
  · next hw he =>
    cases h
    refine Activity.rank_advance_lt _ ?_
    cases a <;> first | rfl | exact absurd rfl (hw _) | exact absurd rfl (he _)

/-- Runs a call until it ends or is held back. -/
def run (s : Session σ) (number : Nat) (call : Call) (a : Activity) : Session σ :=
  match h : s.step src number call a with
  | (s, none) => s
  | (s, some b) =>
    have := rank_step_lt src h
    run s number call b
termination_by a.rank

/-- Starts a call and runs it. -/
def start (s : Session σ) (call : Call) : Session σ :=
  run src { s with started := s.started + 1 } s.started call (.entered call)

/-- Runs a call, and starts another one when the first load returns. Tells whether that has happened. -/
def runWithGap (gap : Call) (s : Session σ) (number : Nat) (call : Call) (a : Activity) : Session σ × Bool :=
  match a with
  | .returned load outcome => ((s.start src gap).run src number call (.returned load outcome), true)
  | a =>
    match h : s.step src number call a with
    | (s, none) => (s, false)
    | (s, some b) =>
      have := rank_step_lt src h
      runWithGap gap s number call b
termination_by a.rank

/-- Starts a call, with another one in the gap behind its first load. -/
def startWithGap (gap : Call) (s : Session σ) (call : Call) : Session σ × Bool :=
  runWithGap src gap { s with started := s.started + 1 } s.started call (.entered call)

/-- Takes the call that waits for a request out of those that wait. -/
def take? (s : Session σ) (request : Nat) : Option (Waiting × Session σ) :=
  (s.waiting.find? (·.request = request)).map fun w =>
    (w, { s with waiting := s.waiting.filter (·.request ≠ request) })

/-- Hands a reply to the field that waits for it. -/
def hand (s : Session σ) (w : Waiting) (reply : Reply) : Session σ × Activity :=
  let (form, a) := Activity.resume s.form w.pending reply
  ({ s with form }, a)

/-- Answers a request that is held back; its call goes on. Nothing happens if there is no such request. -/
def release (s : Session σ) (request : Nat) (reply : Reply) : Session σ :=
  match s.take? request with
  | none => s
  | some (w, s) =>
    let (s, a) := s.hand w reply
    s.run src w.number w.call a

/-- Answers a request that is held back, with another call in the gap behind the load. -/
def releaseWithGap (gap : Call) (s : Session σ) (request : Nat) (reply : Reply) : Session σ × Bool :=
  match s.take? request with
  | none => (s, false)
  | some (w, s) =>
    let (s, a) := s.hand w reply
    s.runWithGap src gap w.number w.call a

/-- Drops a waiting call, which never goes on. -/
def cancel (s : Session σ) (number : Nat) : Session σ :=
  { s with waiting := s.waiting.filter (·.number ≠ number) }

end Session

end LinkedSelect
