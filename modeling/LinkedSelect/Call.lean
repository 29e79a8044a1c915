import LinkedSelect.Form

/-!
# Calls and their course

A `Call` is what a host asks of the form. It runs in sections, and the form is locked only inside a section, so that
the sections of several calls may come in any order. An `Activity` is where a call stands between two sections:

* `Activity.advance` runs the next section; a waiting call has none until its reply comes (`Activity.resume`);
* `Activity.rank` bounds the sections that are left (`rank_advance_lt`, `rank_resume_lt`).
-/

namespace LinkedSelect

/-- What a host asks of the form. -/
inductive Call
  /-- bring the lower levels in line with the values that the page came with -/
  | restore
  /-- a site was picked -/
  | siteChanged (value : String)
  /-- an area was picked -/
  | areaChanged (value : String)
  /-- load the options of a level, filtered by a value of its parent -/
  | load (level : Level) (filter : String) (retain : Bool)
  deriving DecidableEq, Repr

/-- Where a call stands between two sections. -/
inductive Activity
  /-- nothing has happened yet -/
  | entered (call : Call)
  /-- no site was selected; `retained` tells whether there was an area to restore -/
  | siteless (retained : Bool)
  | ready (load : Load)
  | waiting (pending : Pending)
  /-- a load has ended, and the call has not gone on yet -/
  | returned (load : Load) (outcome : Outcome)
  | ended (outcome : Outcome)
  deriving DecidableEq, Repr

namespace Call

/-- What a call tells its host: its outcome, and nothing if it brings the page in line. -/
def result (c : Call) (outcome : Outcome) : Option Outcome :=
  match c with
  | .restore => none
  | _ => some outcome

end Call

namespace Form

/-- A site was picked: nothing below it is to be restored. -/
def pickSite (f : Form) (value : String) : Form :=
  let f := f.modify .site (·.withValue value)
  let f := f.modify .area .clearRetained
  f.modify .rack .clearRetained

/-- An area was picked: nothing below it is to be restored. -/
def pickArea (f : Form) (value : String) : Form :=
  let f := f.modify .area (·.withValue value)
  f.modify .rack .clearRetained

end Form

namespace Activity

/-- A call that loads a level first. -/
def begin (level : Level) (filter : String) (retain : Bool) : Activity :=
  .ready { level, filter, retain, first := none }

/-- The first section of a call. -/
def enter (f : Form) : Call → Form × Activity
  | .restore =>
    if f.site.select.value = "" then (f, .siteless f.area.retained?.isSome)
    else (f, begin .area f.site.select.value true)
  | .siteChanged value =>
    let f := f.pickSite value
    if value = "" then (f.disable [.area, .rack], .ended .disabled) else (f, begin .area value false)
  | .areaChanged value =>
    let f := f.pickArea value
    if value = "" then (f.disable [.rack], .ended .disabled) else (f, begin .rack value false)
  | .load level filter retain => (f, begin level filter retain)

/-- Where a call goes on after a load. -/
def goOn (load : Load) (outcome : Outcome) : Activity :=
  match load.next? outcome with
  | some next => .ready next
  | none => .ended (load.report outcome)

/-- Runs the next section of a call. A call that waits or has ended stays as it is. -/
def advance (f : Form) : Activity → Form × Activity
  | .entered call => enter f call
  | .siteless retained =>
    let f := f.disable [.area, .rack]
    (if retained then f.disable [.rack] else f, .ended .disabled)
  | .ready load =>
    match f.beginLoad load with
    | (f, .ended outcome) => (f, .returned load outcome)
    | (f, .waits pending) => (f, .waiting pending)
  | .returned load outcome => (f, goOn load outcome)
  | .waiting pending => (f, .waiting pending)
  | .ended outcome => (f, .ended outcome)

/-- Runs the section of a waiting call that takes its reply. -/
def resume (f : Form) (p : Pending) (reply : Reply) : Form × Activity :=
  let (f, outcome) := f.receive p reply
  (f, .returned p.load outcome)

/-- A bound for the sections that are left. -/
def rank : Activity → Nat
  | .entered _ => 11
  | .siteless _ => 1
  | .ready load => 3 * load.level.height + 4
  | .waiting pending => 3 * pending.load.level.height + 3
  | .returned load _ => 3 * load.level.height + 2
  | .ended _ => 0

/-- A call whose next section is its own, neither waiting nor ended. -/
def canAdvance : Activity → Bool
  | .waiting _ | .ended _ => false
  | _ => true

theorem rank_begin_lt (level : Level) (filter : String) (retain : Bool) :
    (begin level filter retain).rank < 11 := by
  cases level <;> simp [begin, rank, Level.height]

theorem rank_enter_lt (f : Form) (c : Call) : (enter f c).2.rank < 11 := by
  unfold enter
  split
  · split
    · simp [rank]
    · exact rank_begin_lt ..
  · dsimp only
    split
    · simp [rank]
    · exact rank_begin_lt ..
  · dsimp only
    split
    · simp [rank]
    · exact rank_begin_lt ..
  · exact rank_begin_lt ..

theorem rank_goOn_lt (load : Load) (outcome : Outcome) :
    (goOn load outcome).rank < (Activity.returned load outcome).rank := by
  unfold goOn
  split
  · next h =>
    have := Load.height_of_next? h
    simp [rank]
    omega
  · simp [rank]

/-- The load that waits after its beginning is the one that began. -/
theorem load_of_beginLoad {f g : Form} {l : Load} {p : Pending} (h : f.beginLoad l = (g, .waits p)) :
    p.load = l := by
  unfold Form.beginLoad at h
  split at h
  · cases h
  · split at h
    · cases h
    · dsimp only at h
      split at h <;> cases h
      rfl

/-- A section brings a call nearer to its end. -/
theorem rank_advance_lt (f : Form) {a : Activity} (h : a.canAdvance = true) :
    (a.advance f).2.rank < a.rank := by
  cases a with
  | entered call => exact rank_enter_lt f call
  | siteless retained => simp [advance, rank]
  | ready load =>
    simp only [advance]
    split
    · simp [rank]
    · next hb =>
      simp only [rank, load_of_beginLoad hb]
      omega
  | returned load outcome => exact rank_goOn_lt load outcome
  | waiting => cases h
  | ended => cases h

/-- A reply brings a call nearer to its end. -/
theorem rank_resume_lt (f : Form) (p : Pending) (reply : Reply) :
    (resume f p reply).2.rank < (Activity.waiting p).rank := by
  simp [resume, rank]

end Activity

end LinkedSelect
