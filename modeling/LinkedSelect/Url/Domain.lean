import LinkedSelect.Text.Mark
import LinkedSelect.Text.Normal
import LinkedSelect.Text.Percent
import LinkedSelect.Url.Domain.Excluded
import LinkedSelect.Url.Domain.Joining
import LinkedSelect.Url.Domain.Mapping
import LinkedSelect.Url.Punycode

/-!
# Domains

`toAscii?` brings a domain into the form in which it is looked up. Percent-encoding is undone; letters are in lower
case, characters without effect are left out, and others are replaced by what they are a form of; the whole is in
composed normal form. A label outside ASCII is then written behind the mark `xn--`.

* `normalize?` is the form of a text before its labels are looked at;
* `label?` reads one label, and `Label` keeps it as it is written and as it is read;
* `isOrderly` is the rule about domains with letters from right to left.
-/

namespace LinkedSelect.Url.Domain

/-- What a character becomes; none for one that may not stand. -/
def map? (c : Char) : Option (List Char) :=
  if c.toNat < 128 then some [c.toLower]
  else
    match Mapping.replacement? c with
    | some cs => some cs
    | none => if Excluded.holds c then none else some [c]

/-- The form of a text in a domain. -/
def normalize? (cs : List Char) : Option (List Char) :=
  (cs.mapM map?).map fun parts => Normal.compose parts.flatten

/-- ASCII characters that no domain may have. -/
def isForbidden (c : Char) : Bool :=
  c.toNat < 128 &&
    (c.toNat ≤ 32 || c.toNat == 127 || c ∈ ['%', '#', '/', ':', '<', '>', '?', '@', '[', '\\', ']', '^', '|'])

/-- The mark that announces a label outside ASCII. -/
def mark : List Char :=
  ['x', 'n', '-', '-']

/-- A label in ASCII. -/
def isAscii (label : List Char) : Bool :=
  label.all (·.toNat < 128)

/-- The bound of characters in a label outside ASCII. -/
abbrev readBound : Nat := 1000

/-- The bound of characters behind the mark. -/
abbrev writtenBound : Nat := 2000

/-- A label as it is written in ASCII and as it is read. -/
structure Label where
  written : List Char
  read : List Char

/-- A label outside ASCII that may be written: it begins with no mark, and its joiners are in place. -/
def isWritable (label : List Char) : Bool :=
  !label.head?.any Mark.holds && Joining.areInPlace label && label.length ≤ readBound

/-- What stands behind the mark of a label is another way to write this text. -/
def isSettled (text : List Char) : Bool :=
  !isAscii text && normalize? text = some text && !text.any fun c => c = '.' || isForbidden c

/-- A label of a domain in its form. -/
def label? (label : List Char) : Option Label :=
  if mark.isPrefixOf label then
    match if label.length ≤ mark.length + writtenBound then Punycode.decode? (label.drop mark.length) else none with
    | some text => if isSettled text ∧ isWritable text then some ⟨label, text⟩ else none
    | none => none
  else if isAscii label then some ⟨label, label⟩
  else if isWritable label then some ⟨mark ++ Punycode.encode label, label⟩
  else none

/-- If one label has a letter from right to left, each label keeps to one direction. -/
def isOrderly (labels : List Label) : Bool :=
  !labels.any (·.read.any Direction.turns) || labels.all (Direction.isOneWay ·.read)

/-- A domain in ASCII, from its form in a URL. -/
def toAscii? (cs : List Char) : Option (List Char) :=
  match Utf8.decode (Percent.decode (Utf8.encode cs)) with
  | .error _ => none
  | .ok cs => do
    let text ← normalize? cs
    let labels ← (Split.splitOn (· == '.') text).mapM label?
    if !text.any isForbidden ∧ isOrderly labels then some (List.intercalate ['.'] (labels.map (·.written))) else none

end LinkedSelect.Url.Domain
