import LinkedSelect.Field
import LinkedSelect.Level
import LinkedSelect.Request

/-!
# The three linked fields

A `Form` holds one field per level. A load of a level takes two steps, and between them anything may happen to the
form:

* `beginLoad` disables what lies below and makes the field wait for a reply, or ends the load at once;
* `receive` hands the reply to the field.

A load that continues one of the level above (`Load.first` is that one's outcome) begins only while the parent still
has the value it filters by.
-/

namespace LinkedSelect

/-- Where the options of the lower levels come from. -/
structure Endpoints where
  areas : Option String := none
  racks : Option String := none
  deriving DecidableEq, Repr

/-- The fields of the three levels. -/
structure Form where
  site : Field
  area : Field
  rack : Field
  deriving DecidableEq, Repr

/-- A load of one field. -/
structure Load where
  level : Level
  /-- the value of the parent -/
  filter : String
  /-- restore the retained value, and go on below with it -/
  retain : Bool
  /-- the outcome of the first load of the call, if this is a later one -/
  first : Option Outcome
  deriving DecidableEq, Repr

/-- A load that waits for its reply. -/
structure Pending where
  load : Load
  request : Request
  /-- the value to restore -/
  wanted : Option String
  generation : Nat
  deriving DecidableEq, Repr

/-- What the beginning of a load comes to. -/
inductive Begun
  | ended (outcome : Outcome)
  | waits (pending : Pending)
  deriving DecidableEq, Repr

namespace Form

/-- The fields over three selects. -/
def new (site area rack : Select) (endpoints : Endpoints) : Form :=
  { site := .new site none
    area := .new area endpoints.areas
    rack := .new rack endpoints.racks }

/-- The field of a level. -/
def get (f : Form) : Level → Field
  | .site => f.site
  | .area => f.area
  | .rack => f.rack

/-- Changes the field of a level. -/
def modify (f : Form) (l : Level) (change : Field → Field) : Form :=
  match l with
  | .site => { f with site := change f.site }
  | .area => { f with area := change f.area }
  | .rack => { f with rack := change f.rack }

/-- Disables the fields of some levels. -/
def disable (f : Form) (levels : List Level) : Form :=
  levels.foldl (fun f l => f.modify l .disable) f

/-- Changing a level changes that field alone. -/
theorem get_modify (f : Form) (l m : Level) (change : Field → Field) :
    (f.modify l change).get m = if m = l then change (f.get m) else f.get m := by
  cases l <;> cases m <;> simp [modify, get]

/-- The endpoint that a load of a level with this filter asks, if both are there. -/
def endpoint? (f : Form) (l : Level) (filter : String) : Option String :=
  if filter = "" then none else (f.get l).endpoint

/-- A continued load whose parent has another value by now. -/
def isOutdated (f : Form) (l : Load) (parent : Level) : Bool :=
  l.first.isSome && (f.get parent).select.value != l.filter

/-- Begins a load. -/
def beginLoad (f : Form) (l : Load) : Form × Begun :=
  match l.level.parent? with
  | none => (f, .ended .disabled)
  | some parent =>
    if f.isOutdated l parent then (f, .ended .superseded)
    else
      let below := f.disable l.level.descendants
      match below.endpoint? l.level l.filter with
      | none => (below.modify l.level .decline, .ended .disabled)
      | some endpoint =>
        let wanted := if l.retain then (below.get l.level).retained? else none
        let form := below.modify l.level .beginLoad
        (form, .waits
          { load := l
            request := { endpoint, param := parent.name, value := l.filter }
            wanted
            generation := (form.get l.level).generation })

/-- Hands the reply to the field that waits, or waited, for it. -/
def receive (f : Form) (p : Pending) (reply : Reply) : Form × Outcome :=
  let (field, outcome) := (f.get p.load.level).finish p.generation reply p.wanted
  (f.modify p.load.level fun _ => field, outcome)

end Form

namespace Load

/-- The load one level down that a restored value asks for. -/
def next? (l : Load) (outcome : Outcome) : Option Load :=
  match outcome, l.level.child? with
  | .populated _ (some value), some child =>
    some { level := child, filter := value, retain := l.retain, first := some (l.first.getD outcome) }
  | _, _ => none

/-- What the call reports if it ends with this load: the outcome of its first one. -/
def report (l : Load) (outcome : Outcome) : Outcome :=
  l.first.getD outcome

/-- The next load is of a lower level. -/
theorem height_of_next? {l m : Load} {o : Outcome} (h : l.next? o = some m) :
    m.level.height < l.level.height := by
  unfold next? at h
  split at h
  · next hc =>
    cases h
    exact Level.height_of_child? hc
  · cases h

end Load

end LinkedSelect
