import LinkedSelect.Choice
import LinkedSelect.Dataset

/-!
# Selects

A `Select` shows entries and submits the value of one of them. It may be disabled, and it carries data attributes; the
attribute `currentValue` holds the value to restore after its entries were fetched again.

* `reset` leaves the placeholder alone;
* `populate` shows the placeholder and the given choices and selects the one that was asked for, if it is there.
-/

namespace LinkedSelect

/-- A select element. -/
structure Select where
  id : String
  value : String
  disabled : Bool
  /-- the lines that are shown, the placeholder first -/
  entries : List Entry
  dataset : Dataset
  deriving DecidableEq, Repr

namespace Select

/-- The attribute that holds the value to restore. -/
def currentValueKey : String := "currentValue"

/-- An enabled select that shows the placeholder alone. -/
def new (id : String) : Select :=
  { id, value := "", disabled := false, entries := [.placeholder], dataset := .empty }

/-- The select with another value. -/
def withValue (s : Select) (value : String) : Select :=
  { s with value }

/-- The select with a data attribute set. -/
def withData (s : Select) (key text : String) : Select :=
  { s with dataset := s.dataset.set key text }

/-- The select, disabled or not. -/
def withDisabled (s : Select) (disabled : Bool) : Select :=
  { s with disabled }

/-- A data attribute. -/
def data? (s : Select) (key : String) : Option String :=
  s.dataset.get? key

/-- The value to restore, empty if there is none. -/
def currentValue (s : Select) : String :=
  (s.data? currentValueKey).getD ""

/-- The first entry with the value of the select. -/
def selected? (s : Select) : Option Entry :=
  s.entries.find? fun e => e.value = s.value

/-- Shows the placeholder alone and selects it. -/
def reset (s : Select) : Select :=
  { s with value := "", entries := [.placeholder] }

/-- The lines for a list of choices. -/
def entriesOf (choices : List Choice) : List Entry :=
  .placeholder :: choices.map .ofChoice

/-- The value that was asked for, if it is not empty and one of the choices has it. -/
def hit? (choices : List Choice) (wanted : Option String) : Option String :=
  match wanted with
  | none => none
  | some w =>
    if w = "" then none
    else ((entriesOf choices).find? fun e => e.value = w).map (·.value)

/-- Shows the choices, and selects the one that was asked for or else the placeholder. -/
def populate (s : Select) (choices : List Choice) (wanted : Option String) : Select :=
  { s with
    entries := entriesOf choices
    value := (hit? choices wanted).getD "" }

end Select

end LinkedSelect
