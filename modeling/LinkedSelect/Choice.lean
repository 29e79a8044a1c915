import LinkedSelect.Binary64.Shortest

/-!
# Choices and entries

* A `Choice` is what an endpoint offers: an identifier and a name. Identifiers are integers of 64 bits, signed where
  they fit and unsigned above, floating point numbers, or texts; `ChoiceId.display` is the form in which they are
  compared with the value of a select.
* An `Entry` is a line of a select: the text that is submitted and the text that is shown. The placeholder is the
  entry that submits nothing.
-/

namespace LinkedSelect

/-- Identifier of a choice. -/
inductive ChoiceId
  | number (n : Int64)
  | unsigned (n : UInt64)
  | float (x : Binary64)
  | text (s : String)
  deriving DecidableEq, Repr

namespace ChoiceId

/-- The decimal digits of a number without an exponent, and a text as it is. -/
def display : ChoiceId → String
  | .number n => toString n.toInt
  | .unsigned n => toString n.toNat
  | .float x => x.plain
  | .text s => s

/-- Identifiers of one form with equal values; floating point numbers compare by value. -/
def same : ChoiceId → ChoiceId → Bool
  | .number m, .number n => m == n
  | .unsigned m, .unsigned n => m == n
  | .float x, .float y => x.same y
  | .text s, .text t => s == t
  | _, _ => false

end ChoiceId

/-- One site, area or rack that can be selected. -/
structure Choice where
  id : ChoiceId
  name : String
  deriving DecidableEq, Repr

/-- A line of a select. -/
structure Entry where
  /-- the text that is submitted -/
  value : String
  /-- the text that is shown -/
  label : String
  deriving DecidableEq, Repr

namespace Entry

/-- The entry for no selection. -/
def placeholder : Entry :=
  ⟨"", "---------"⟩

/-- The entry submits nothing. -/
def isPlaceholder (e : Entry) : Bool :=
  e.value.isEmpty

/-- The entry that offers a choice. -/
def ofChoice (c : Choice) : Entry :=
  ⟨c.id.display, c.name⟩

end Entry

end LinkedSelect
