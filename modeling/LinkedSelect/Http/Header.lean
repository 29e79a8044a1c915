import LinkedSelect.Assoc
import LinkedSelect.Text.Utf8

/-!
# Header fields

Names are tokens and compare without regard to case, so they are kept in lower case. A `Headers` holds one value for
each name; `get?_set` says what `set` does to a look-up.
-/

namespace LinkedSelect.Http

/-- An octet of a header name. -/
def isNameOctet (b : UInt8) : Bool :=
  let n := b.toNat
  (48 ≤ n && n ≤ 57) || (65 ≤ n && n ≤ 90) || (97 ≤ n && n ≤ 122) ||
    n ∈ ['!', '"', '#', '$', '%', '&', '\'', '*', '+', '-', '.', '^', '_', '`', '|', '~'].map Char.toNat

/-- An octet of a header value: anything but controls, among which the tab is allowed. -/
def isValueOctet (b : UInt8) : Bool :=
  (32 ≤ b.toNat && b.toNat != 127) || b.toNat == 9

/-- A name in lower case, if it is one. -/
def headerName? (name : String) : Option String :=
  let octets := Utf8.encode name.toList
  if octets ≠ [] ∧ octets.length ≤ 65535 ∧ octets.all isNameOctet then
    some (String.ofList (name.toList.map Char.toLower))
  else none

/-- A value, if it is one. -/
def headerValue? (value : String) : Option String :=
  if (Utf8.encode value.toList).all isValueOctet then some value else none

/-- Header fields with one value for each name in lower case. -/
structure Headers where
  fields : List (String × String) := []
  deriving DecidableEq, Repr

namespace Headers

/-- The value of a name in lower case. -/
def get? (h : Headers) (name : String) : Option String :=
  h.fields.lookup name

/-- Gives a name a value, in place of any that it has. -/
def set (h : Headers) (name value : String) : Headers :=
  ⟨Assoc.put name value h.fields⟩

/-- Takes a name out. -/
def erase (h : Headers) (name : String) : Headers :=
  ⟨h.fields.filter (·.1 ≠ name)⟩

/-- Adds the fields of `defaults` whose names are not there yet. -/
def orElse (h defaults : Headers) : Headers :=
  defaults.fields.foldl (fun h (name, value) => if (h.get? name).isSome then h else h.set name value) h

/-- After a name is set, it has the new value, and the other names have what they had. -/
theorem get?_set (h : Headers) (name value n : String) :
    (h.set name value).get? n = if n = name then some value else h.get? n :=
  Assoc.lookup_put name n value h.fields

end Headers

end LinkedSelect.Http
