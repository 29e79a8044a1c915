/-!
# The chain of fields

Sites hold areas, and areas hold racks; each level below the first is filtered by the level above it. `descendants`
lists what lies below a level, nearest first.
-/

namespace LinkedSelect

/-- Place of a field in the chain. -/
inductive Level
  | site
  | area
  | rack
  deriving DecidableEq, Repr

namespace Level

/-- The levels from the top. -/
def all : List Level :=
  [.site, .area, .rack]

/-- The name of a level. -/
def name : Level → String
  | .site => "site"
  | .area => "area"
  | .rack => "rack"

/-- The id of the select that shows a level. -/
def elementId : Level → String
  | .site => "id_site"
  | .area => "id_area"
  | .rack => "id_rack"

/-- The level above. -/
def parent? : Level → Option Level
  | .site => none
  | .area => some .site
  | .rack => some .area

/-- The level below. -/
def child? : Level → Option Level
  | .site => some .area
  | .area => some .rack
  | .rack => none

/-- The query parameter that names the parent when options are asked for. -/
def param? (l : Level) : Option String :=
  l.parent?.map name

/-- The number of levels below. -/
def height : Level → Nat
  | .site => 2
  | .area => 1
  | .rack => 0

/-- The levels below, nearest first. -/
def descendants : Level → List Level
  | .site => [.area, .rack]
  | .area => [.rack]
  | .rack => []

/-- A child is lower. -/
theorem height_of_child? {l m : Level} (h : l.child? = some m) : m.height < l.height := by
  cases l <;> cases m <;> simp_all [child?, height]

end Level

end LinkedSelect
