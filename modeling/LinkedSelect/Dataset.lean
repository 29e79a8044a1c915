import LinkedSelect.Assoc

/-!
# Data attributes

A `Dataset` maps names to texts; each name has one text. `get?_set` says what `set` does to a look-up.
-/

namespace LinkedSelect

/-- Data attributes of a select, in the order in which their names were first set. -/
structure Dataset where
  pairs : List (String × String) := []
  deriving DecidableEq, Repr

namespace Dataset

/-- No attribute at all. -/
def empty : Dataset := {}

/-- The text of a name. -/
def get? (d : Dataset) (key : String) : Option String :=
  d.pairs.lookup key

/-- Gives a name a text, in place of any that it has. -/
def set (d : Dataset) (key text : String) : Dataset :=
  ⟨Assoc.put key text d.pairs⟩

/-- After a name is set, it has the new text, and the other names have what they had. -/
theorem get?_set (d : Dataset) (key text k : String) :
    (d.set key text).get? k = if k = key then some text else d.get? k :=
  Assoc.lookup_put key k text d.pairs

end Dataset

end LinkedSelect
