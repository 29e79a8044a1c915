import Mathlib.Control.Monad.Basic
import LinkedSelect.Event
import LinkedSelect.Proofs.Deed

/-!
# What has happened in a session

A `Section` records what a call did while the form was locked: the form before and after it and where the call stood.
`Session.history` lists the sections of all calls that a list of events brings about, in order.

* `Session.Ran` is the big-step relation of `Session.run` and `Session.runWithGap`, with the sections that are run
  (`ran_run`, `ran_runWithGap`); what is said about whole runs is proved by induction on it.
* A section is one section of a call of its own or one that takes a reply (`Section.Runs`).
* The requests that were sent are those of the sections in which a load began to wait (`Session.requests_after`).
-/

namespace LinkedSelect

/-- What a call did while the form was locked. -/
structure Section where
  /-- the number of the call -/
  number : Nat
  call : Call
  before : Form
  start : Activity
  /-- the reply that was taken, if the call was waiting -/
  reply : Option Reply
  after : Form
  stop : Activity
  deriving DecidableEq

namespace Section

/-- A section is one of the call's own, or one that takes a reply. -/
inductive Runs : Section → Prop
  | own {number : Nat} {call : Call} {form : Form} {a : Activity} (h : a.canAdvance = true) :
      Runs ⟨number, call, form, a, none, (a.advance form).1, (a.advance form).2⟩
  | reply {number : Nat} {call : Call} {form : Form} {p : Pending} {reply : Reply} :
      Runs ⟨number, call, form, .waiting p, some reply, (Activity.resume form p reply).1,
        (Activity.resume form p reply).2⟩

/-- In this section a load began, and it waits for the reply to its request. -/
def Asks (x : Section) (p : Pending) : Prop :=
  x.start = .ready p.load ∧ x.stop = .waiting p

/-- In this section a waiting load got this reply. -/
def Answers (x : Section) (p : Pending) (reply : Reply) : Prop :=
  x.start = .waiting p ∧ x.reply = some reply

/-- In this section a load ended, and it was not superseded. -/
def Applies (x : Section) : Prop :=
  ∃ load outcome, x.stop = .returned load outcome ∧ outcome ≠ .superseded

/-- In this section a load of a level began, or the level was disabled. -/
def Renews (x : Section) (l : Level) : Prop :=
  ∃ d ∈ x.start.deeds x.before, d.level = l ∧ d.change.renews = true

instance (x : Section) (p : Pending) : Decidable (x.Asks p) :=
  inferInstanceAs (Decidable (_ ∧ _))

instance (x : Section) (p : Pending) (reply : Reply) : Decidable (x.Answers p reply) :=
  inferInstanceAs (Decidable (_ ∧ _))

instance (x : Section) (l : Level) : Decidable (x.Renews l) :=
  inferInstanceAs (Decidable (∃ d ∈ _, _))

end Section

/-- A call by which a host restores the page or reports what was picked. -/
def Call.isPick : Call → Bool
  | .load _ _ _ => false
  | _ => true

/-- The calls that an event may start. -/
def Event.calls : Event → List Call
  | .start call gap => call :: gap.toList
  | .release _ _ gap => gap.toList
  | .cancel _ => []

/-- A call enters once, at its start. -/
theorem Activity.advance_ne_entered (f : Form) {a : Activity} (h : a.canAdvance = true) (c : Call) :
    (a.advance f).2 ≠ .entered c := by
  cases a with
  | entered call =>
    cases call <;> simp only [advance, enter, begin] <;> (try split) <;> exact fun h => by cases h
  | siteless retained => exact fun h => by cases h
  | ready load => simp only [advance]; split <;> exact fun h => by cases h
  | returned load outcome => simp only [advance, goOn]; split <;> exact fun h => by cases h
  | waiting p => cases h
  | ended outcome => cases h

/-- The load whose reply a call waits for. -/
def Activity.pending? : Activity → Option Pending
  | .waiting p => some p
  | _ => none

theorem Activity.mem_pending? {a : Activity} {p : Pending} : p ∈ a.pending? ↔ a = .waiting p := by
  cases a <;> simp [pending?]

/-- The request of an activity that waits. -/
def Activity.requests : Activity → List Request
  | .waiting p => [p.request]
  | _ => []

/-- Holds every request back. -/
def Source.holding : Source Unit :=
  ⟨fun s _ => (none, s)⟩

namespace Session

variable {σ : Type} (src : Source σ)

/-- The reply that the source has at once for an activity that waits. -/
def promptReply? (s : Session σ) : Activity → Option Reply
  | .waiting p => (src.fetch s.source p.request).1
  | _ => none

/-- The sections of `run`. -/
def sections (s : Session σ) (number : Nat) (call : Call) (a : Activity) : List Section :=
  match h : s.step src number call a with
  | (_, none) => []
  | (t, some b) =>
    have := rank_step_lt src h
    ⟨number, call, s.form, a, s.promptReply? src a, t.form, b⟩ :: sections t number call b
termination_by a.rank

/-- The sections of `start`. -/
def startSections (s : Session σ) (call : Call) : List Section :=
  sections src { s with started := s.started + 1 } s.started call (.entered call)

/-- The sections of `runWithGap`. -/
def gapSections (gap : Call) (s : Session σ) (number : Nat) (call : Call) (a : Activity) : List Section :=
  match a with
  | .returned load outcome =>
    s.startSections src gap ++ (s.start src gap).sections src number call (.returned load outcome)
  | a =>
    match h : s.step src number call a with
    | (_, none) => []
    | (t, some b) =>
      have := rank_step_lt src h
      ⟨number, call, s.form, a, s.promptReply? src a, t.form, b⟩ :: gapSections gap t number call b
termination_by a.rank

/-- The section in which a waiting call takes its reply. -/
def handSection (s : Session σ) (w : Waiting) (reply : Reply) : Section :=
  ⟨w.number, w.call, s.form, .waiting w.pending, some reply, (s.hand w reply).1.form, (s.hand w reply).2⟩

/-- The sections of an event. -/
def eventSections (s : Session σ) : Event → List Section
  | .start call none => s.startSections src call
  | .start call (some gap) =>
    gapSections src gap { s with started := s.started + 1 } s.started call (.entered call)
  | .release request reply gap =>
    match s.take? request with
    | none => []
    | some (w, t) =>
      t.handSection w reply ::
        match gap with
        | none => (t.hand w reply).1.sections src w.number w.call (t.hand w reply).2
        | some gap => (t.hand w reply).1.gapSections src gap w.number w.call (t.hand w reply).2
  | .cancel _ => []

/-- The sections of some events, in order. -/
def history (s : Session σ) : List Event → List Section
  | [] => []
  | e :: events => s.eventSections src e ++ (s.handle src e).1.history events

/-- A new form over three selects, in which nothing waits; requests and calls go on being counted. -/
def fresh (traffic : Traffic σ) (site area rack : Select) (endpoints : Endpoints) : Session σ :=
  { traffic with form := .new site area rack endpoints }

/-! ## Steps and runs as relations -/

/-- What a step of a call can come to. -/
inductive Steps (s : Session σ) (number : Nat) (call : Call) : Activity → Session σ × Option Activity → Prop
  | ends (outcome : Outcome) :
      Steps s number call (.ended outcome) ({ s with ended := s.ended ++ [(number, call.result outcome)] }, none)
  | holds {p : Pending} {source : σ} (h : src.fetch s.source p.request = (none, source)) :
      Steps s number call (.waiting p)
        ({ s with
            source
            requests := s.requests ++ [p.request]
            waiting := s.waiting ++ [⟨number, call, s.requests.length, p⟩] }, none)
  | answers {p : Pending} {reply : Reply} {source : σ} (h : src.fetch s.source p.request = (some reply, source)) :
      Steps s number call (.waiting p)
        ({ s with
            source
            requests := s.requests ++ [p.request]
            form := (Activity.resume s.form p reply).1 }, some (Activity.resume s.form p reply).2)
  | own {a : Activity} (h : a.canAdvance = true) :
      Steps s number call a ({ s with form := (a.advance s.form).1 }, some (a.advance s.form).2)

theorem steps (s : Session σ) (number : Nat) (call : Call) (a : Activity) :
    Steps src s number call a (s.step src number call a) := by
  cases a with
  | ended outcome => exact .ends outcome
  | waiting p =>
    cases hf : src.fetch s.source p.request with
    | mk reply source =>
      cases reply with
      | none => simpa only [step, hf] using Steps.holds hf
      | some reply => simpa only [step, hf] using Steps.answers hf
  | entered call => exact .own rfl
  | siteless retained => exact .own rfl
  | ready load => exact .own rfl
  | returned load outcome => exact .own rfl

/-- A call runs from an activity until it ends or is held back, with these sections. With a gap call, that one is
started and run when a load returns. -/
inductive Ran : Option Call → Nat → Call → Session σ → Activity → List Section → Session σ → Prop
  | ends {gap : Option Call} {number : Nat} {call : Call} {s : Session σ} (outcome : Outcome) :
      Ran gap number call s (.ended outcome) [] { s with ended := s.ended ++ [(number, call.result outcome)] }
  | holds {gap : Option Call} {number : Nat} {call : Call} {s : Session σ} {p : Pending} {source : σ}
      (h : src.fetch s.source p.request = (none, source)) :
      Ran gap number call s (.waiting p) []
        { s with
          source
          requests := s.requests ++ [p.request]
          waiting := s.waiting ++ [⟨number, call, s.requests.length, p⟩] }
  | answers {gap : Option Call} {number : Nat} {call : Call} {s t : Session σ} {p : Pending} {reply : Reply}
      {source : σ} {xs : List Section} (h : src.fetch s.source p.request = (some reply, source))
      (hr : Ran gap number call
        { s with
          source
          requests := s.requests ++ [p.request]
          form := (Activity.resume s.form p reply).1 } (Activity.resume s.form p reply).2 xs t) :
      Ran gap number call s (.waiting p)
        (⟨number, call, s.form, .waiting p, some reply, (Activity.resume s.form p reply).1,
          (Activity.resume s.form p reply).2⟩ :: xs) t
  | own {gap : Option Call} {number : Nat} {call : Call} {s t : Session σ} {a : Activity} {xs : List Section}
      (h : a.canAdvance = true)
      (hr : Ran gap number call { s with form := (a.advance s.form).1 } (a.advance s.form).2 xs t) :
      Ran gap number call s a (⟨number, call, s.form, a, none, (a.advance s.form).1, (a.advance s.form).2⟩ :: xs) t
  | gap {gap : Call} {number : Nat} {call : Call} {s t u : Session σ} {load : Load} {outcome : Outcome}
      {xs ys : List Section}
      (hg : Ran none s.started gap { s with started := s.started + 1 } (.entered gap) xs t)
      (hr : Ran none number call t (.returned load outcome) ys u) :
      Ran (some gap) number call s (.returned load outcome) (xs ++ ys) u

variable {src}

theorem promptReply?_own {s : Session σ} {a : Activity} (h : a.canAdvance = true) : s.promptReply? src a = none := by
  cases a <;> first | rfl | cases h

/-- A step that the call survives is one section, and what follows it is the rest of the run. -/
theorem ran_cons {gap : Option Call} {number : Nat} {call : Call} {s t u : Session σ} {a b : Activity}
    {xs : List Section} (h : s.step src number call a = (t, some b)) (hr : Ran src gap number call t b xs u) :
    Ran src gap number call s a (⟨number, call, s.form, a, s.promptReply? src a, t.form, b⟩ :: xs) u := by
  have hs := steps src s number call a
  rw [h] at hs
  cases hs with
  | answers hf =>
    have hp : s.promptReply? src (.waiting _) = some _ := congrArg Prod.fst hf
    rw [hp]
    exact .answers hf hr
  | own ho =>
    rw [promptReply?_own ho]
    exact .own ho hr

theorem ran_nil {gap : Option Call} {number : Nat} {call : Call} {s t : Session σ} {a : Activity}
    (h : s.step src number call a = (t, none)) : Ran src gap number call s a [] t := by
  have hs := steps src s number call a
  rw [h] at hs
  cases hs with
  | ends outcome => exact .ends outcome
  | holds hf => exact .holds hf

theorem ran_run (s : Session σ) (number : Nat) (call : Call) (a : Activity) :
    Ran src none number call s a (s.sections src number call a) (s.run src number call a) := by
  fun_induction run src s number call a with
  | case1 s a t h =>
    rw [sections]
    split
    · exact ran_nil h
    · next h' => rw [h] at h'; cases h'
  | case2 s a t b h _ ih =>
    rw [sections]
    split
    · next h' => rw [h] at h'; cases h'
    · next h' =>
      rw [h] at h'
      cases h'
      exact ran_cons h ih

theorem ran_runWithGap (gap : Call) (s : Session σ) (number : Nat) (call : Call) (a : Activity) :
    Ran src (some gap) number call s a (s.gapSections src gap number call a)
      (s.runWithGap src gap number call a).1 := by
  fun_induction runWithGap src gap s number call a with
  | case1 s load outcome =>
    rw [gapSections]
    exact .gap (ran_run ..) (ran_run ..)
  | case2 s a hr t h =>
    rw [gapSections.eq_2 _ _ _ _ _ _ hr]
    split
    · exact ran_nil h
    · next h' => rw [h] at h'; cases h'
  | case3 s a hr t b h _ ih =>
    rw [gapSections.eq_2 _ _ _ _ _ _ hr]
    split
    · next h' => rw [h] at h'; cases h'
    · next h' =>
      rw [h] at h'
      cases h'
      exact ran_cons h ih

/-- What handling an event can come to. -/
inductive Handled (src : Source σ) (s : Session σ) : Event → List Section → Session σ → Prop
  | start {call : Call} {gap : Option Call} {xs : List Section} {t : Session σ}
      (h : Ran src gap s.started call { s with started := s.started + 1 } (.entered call) xs t) :
      Handled src s (.start call gap) xs t
  | missing {request : Nat} {reply : Reply} {gap : Option Call} (h : s.take? request = none) :
      Handled src s (.release request reply gap) [] s
  | release {request : Nat} {reply : Reply} {gap : Option Call} {w : Waiting} {t u : Session σ} {xs : List Section}
      (h : s.take? request = some (w, t))
      (hr : Ran src gap w.number w.call (t.hand w reply).1 (t.hand w reply).2 xs u) :
      Handled src s (.release request reply gap) (t.handSection w reply :: xs) u
  | cancel {number : Nat} : Handled src s (.cancel number) [] (s.cancel number)

theorem handled (s : Session σ) (e : Event) : Handled src s e (s.eventSections src e) (s.handle src e).1 := by
  cases e with
  | start call gap =>
    cases gap with
    | none => exact .start (ran_run ..)
    | some gap => exact .start (ran_runWithGap ..)
  | release request reply gap =>
    cases h : s.take? request with
    | none => cases gap <;> simpa only [eventSections, handle, release, releaseWithGap, h] using .missing h
    | some taken =>
      cases gap with
      | none => simpa only [eventSections, handle, release, h] using .release h (ran_run ..)
      | some gap => simpa only [eventSections, handle, releaseWithGap, h] using .release h (ran_runWithGap ..)
  | cancel number => exact .cancel

/-! ## Requests and calls of a run -/

/-- The requests that a run sends are that of the activity it begins with and those of the loads that begin in it. -/
theorem requests_of_ran {gap : Option Call} {number : Nat} {call : Call} {s t : Session σ} {a : Activity}
    {xs : List Section} (h : Ran src gap number call s a xs t) :
    t.requests = s.requests ++ a.requests ++ xs.flatMap (·.stop.requests) := by
  induction h with
  | ends outcome => simp [Activity.requests]
  | holds hf => simp [Activity.requests]
  | answers hf _ ih => rw [ih]; simp [Activity.requests]
  | @own gap number call s t a xs h _ ih =>
    have ha : a.requests = [] := by cases a <;> first | rfl | cases h
    rw [ih, ha]
    simp
  | gap _ _ ihg ihr => rw [ihr, ihg]; simp [Activity.requests]

/-- The calls that start in a run are that of its beginning and the gap call. -/
theorem entered_of_ran {gap : Option Call} {number : Nat} {call : Call} {s t : Session σ} {a : Activity}
    {xs : List Section} (h : Ran src gap number call s a xs t) :
    ∀ x ∈ xs, ∀ c, x.start = .entered c → a = .entered c ∨ gap = some c := by
  induction h with
  | ends outcome => exact fun x hx => absurd hx List.not_mem_nil
  | holds hf => exact fun x hx => absurd hx List.not_mem_nil
  | answers hf _ ih =>
    intro x hx c hc
    rcases List.mem_cons.mp hx with rfl | hx
    · cases hc
    · rcases ih x hx c hc with h | h
      · cases h
      · exact Or.inr h
  | @own gap number call s t a xs h _ ih =>
    intro x hx c hc
    rcases List.mem_cons.mp hx with rfl | hx
    · exact Or.inl hc
    · rcases ih x hx c hc with h | h
      · exact absurd h (Activity.advance_ne_entered s.form ‹_› c)
      · exact Or.inr h
  | gap _ _ ihg ihr =>
    intro x hx c hc
    rcases List.mem_append.mp hx with hx | hx
    · rcases ihg x hx c hc with h | h
      · cases h
        exact Or.inr rfl
      · cases h
    · rcases ihr x hx c hc with h | h <;> cases h

theorem requests_of_handled {s t : Session σ} {e : Event} {xs : List Section} (h : Handled src s e xs t) :
    t.requests = s.requests ++ xs.flatMap (·.stop.requests) := by
  cases h with
  | start h => rw [requests_of_ran h]; simp [Activity.requests]
  | missing => simp
  | release h hr =>
    obtain ⟨w', _, hw⟩ := Option.map_eq_some_iff.mp h
    cases hw
    rw [requests_of_ran hr]
    simp [hand, handSection]
  | cancel => simp [Session.cancel]

theorem entered_of_handled {s t : Session σ} {e : Event} {xs : List Section} (h : Handled src s e xs t) :
    ∀ x ∈ xs, ∀ c, x.start = .entered c → c ∈ e.calls := by
  intro x hx c hc
  cases h with
  | start h =>
    rcases entered_of_ran h x hx c hc with h | h
    · cases h
      exact List.mem_cons_self
    · subst h
      exact List.mem_cons_of_mem _ List.mem_cons_self
  | missing => cases hx
  | release h hr =>
    rcases List.mem_cons.mp hx with rfl | hx
    · cases hc
    · rcases entered_of_ran hr x hx c hc with h | h
      · simp [hand, Activity.resume] at h
      · subst h
        exact List.mem_cons_self
  | cancel => cases hx

variable (src)

/-- The requests that were sent are those of the loads that began to wait. -/
theorem requests_after (s : Session σ) (events : List Event) :
    (s.after src events).requests = s.requests ++ (s.history src events).flatMap (·.stop.requests) := by
  induction events generalizing s with
  | nil => simp [after, history]
  | cons e events ih =>
    have hi := ih (s.handle src e).1
    rw [requests_of_handled (handled s e), List.append_assoc, ← List.flatMap_append] at hi
    exact hi

/-- The calls that start are those of the events. -/
theorem entered_of_history (s : Session σ) (events : List Event) :
    ∀ x ∈ s.history src events, ∀ c, x.start = .entered c → ∃ e ∈ events, c ∈ e.calls := by
  induction events generalizing s with
  | nil => exact fun x hx => absurd hx List.not_mem_nil
  | cons e events ih =>
    intro x hx c hc
    rcases List.mem_append.mp hx with hx | hx
    · exact ⟨e, List.mem_cons_self, entered_of_handled (handled s e) x hx c hc⟩
    · obtain ⟨e', he, hm⟩ := ih _ x hx c hc
      exact ⟨e', List.mem_cons_of_mem _ he, hm⟩

end Session

end LinkedSelect
