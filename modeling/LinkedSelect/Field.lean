import LinkedSelect.Failure
import LinkedSelect.Select

/-!
# One field

A `Field` is a select with the endpoint of its options and a `Phase`: disabled, waiting for the options of a load, or
populated. Every load and every disabling begins a new generation; `finish` applies the reply of a load only if the
field still waits for that generation, and else leaves everything as it is.
-/

namespace LinkedSelect

/-- How a load of one field ends. -/
inductive Outcome
  /-- there was no parent value or no endpoint, so the field was disabled -/
  | disabled
  /-- the field shows this many options, and this value was restored -/
  | populated (choices : Nat) (selected : Option String)
  /-- the fetch failed, so the field shows the placeholder alone -/
  | failed (failure : Failure)
  /-- the field moved on before the reply came -/
  | superseded
  deriving DecidableEq, Repr

/-- Where a field is in its life. -/
inductive Phase
  | disabled
  | loading (generation : Nat)
  | populated
  deriving DecidableEq, Repr

/-- A select whose options are loaded. -/
structure Field where
  select : Select
  /-- where the options come from, never empty -/
  endpoint : Option String
  phase : Phase
  /-- the outcome of the last load that was not superseded -/
  outcome : Option Outcome
  /-- counts loads and disablings -/
  generation : Nat
  deriving DecidableEq, Repr

namespace Field

/-- A field that was not loaded yet; an empty endpoint is none. -/
def new (select : Select) (endpoint : Option String) : Field :=
  { select
    endpoint := endpoint.filter (· ≠ "")
    phase := if select.disabled then .disabled else .populated
    outcome := none
    generation := 0 }

/-- The value to restore, if there is one. -/
def retained? (f : Field) : Option String :=
  if f.select.currentValue = "" then none else some f.select.currentValue

/-- Forgets the value to restore. -/
def clearRetained (f : Field) : Field :=
  { f with select := f.select.withData Select.currentValueKey "" }

/-- The field with this value selected. -/
def withValue (f : Field) (value : String) : Field :=
  { f with select := f.select.withValue value }

/-- Shows the placeholder alone and takes no input. -/
def disable (f : Field) : Field :=
  { f with
    generation := f.generation + 1
    select := f.select.reset.withDisabled true
    phase := .disabled
    outcome := none }

/-- Disables the field for want of a parent value or an endpoint. -/
def decline (f : Field) : Field :=
  { f.disable with outcome := some .disabled }

/-- Shows the placeholder alone and waits for the options of the next generation. -/
def beginLoad (f : Field) : Field :=
  { f with
    generation := f.generation + 1
    select := f.select.reset.withDisabled false
    phase := .loading (f.generation + 1) }

/-- How a load ends whose reply is applied. -/
def outcomeOf (reply : Reply) (wanted : Option String) : Outcome :=
  match reply with
  | .ok choices => .populated choices.length (Select.hit? choices wanted)
  | .error e => .failed e.failure

/-- The options of a reply, none if it is an error. -/
def choicesOf (reply : Reply) : List Choice :=
  match reply with
  | .ok choices => choices
  | .error _ => []

/-- Shows the options of a reply, restoring the value that was wanted. -/
def resolve (f : Field) (reply : Reply) (wanted : Option String) : Field :=
  { f with
    select := (f.select.populate (choicesOf reply) wanted).withDisabled false
    phase := .populated
    outcome := some (outcomeOf reply wanted) }

/-- Applies the reply of the load of a generation if the field still waits for it. -/
def finish (f : Field) (generation : Nat) (reply : Reply) (wanted : Option String) : Field × Outcome :=
  if f.phase = .loading generation then (f.resolve reply wanted, outcomeOf reply wanted)
  else (f, .superseded)

end Field

end LinkedSelect
