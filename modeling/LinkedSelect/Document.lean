import LinkedSelect.Form

/-!
# Documents

A `Document` holds selects, one for each id. The form is bound to the selects of the three levels; the select of the
sites carries the endpoint of the areas, and that of the areas the endpoint of the racks.

* `attach` builds the form, if all three selects are there;
* `sync` writes the selects of a form back.
-/

namespace LinkedSelect

/-- Selects, looked up by their id. -/
structure Document where
  selects : List Select := []
  deriving DecidableEq, Repr

namespace Document

/-- The attribute that holds the endpoint of the areas. -/
def areasKey : String := "areasUrl"

/-- The attribute that holds the endpoint of the racks. -/
def racksKey : String := "racksUrl"

/-- A document without a select. -/
def empty : Document := {}

/-- The selects with one put in place of that with the same id, or at the end. -/
def put (s : Select) : List Select → List Select
  | [] => [s]
  | t :: rest => if t.id = s.id then s :: rest else t :: put s rest

/-- Adds a select, in place of any with the same id. -/
def insert (d : Document) (s : Select) : Document :=
  ⟨put s d.selects⟩

/-- The select with this id. -/
def get? (d : Document) (id : String) : Option Select :=
  d.selects.find? (·.id = id)

/-- A document with these selects, later ones in place of earlier ones with the same id. -/
def ofList (selects : List Select) : Document :=
  selects.foldl insert empty

/-- The endpoints that the selects of sites and areas carry. -/
def endpointsOf (site area : Select) : Endpoints :=
  { areas := site.data? areasKey, racks := area.data? racksKey }

/-- The form over the selects of the three levels; there is none if one of them is missing. -/
def attach (d : Document) : Option Form := do
  let site ← d.get? Level.site.elementId
  let area ← d.get? Level.area.elementId
  let rack ← d.get? Level.rack.elementId
  return .new site area rack (endpointsOf site area)

/-- Writes the selects of a form back. -/
def sync (d : Document) (f : Form) : Document :=
  Level.all.foldl (fun d l => d.insert (f.get l).select) d

theorem find?_put (s : Select) (id : String) (selects : List Select) :
    (put s selects).find? (·.id = id) = if s.id = id then some s else selects.find? (·.id = id) := by
  induction selects with
  | nil => by_cases h : s.id = id <;> simp [put, h]
  | cons t rest ih =>
    by_cases ht : t.id = s.id
    · by_cases h : s.id = id <;> simp [put, ht, h]
    · by_cases h : t.id = id
      · have hs : s.id ≠ id := fun e => ht (h.trans e.symm)
        rw [put, if_neg ht]
        simp [h, hs]
      · simp [put, ht, h, ih]

/-- After an insertion the select is there, and the others are where they were. -/
theorem get?_insert (d : Document) (s : Select) (id : String) :
    (d.insert s).get? id = if s.id = id then some s else d.get? id :=
  find?_put s id d.selects

end Document

end LinkedSelect
