import LinkedSelect.Text.Hex
import LinkedSelect.Text.Split

/-!
# Tables of code points

A row is a text of entries between spaces, and an entry is one or more code points in hexadecimal between plus signs.
In a table each row stands beside the code point of its first entry, and the other entries are those of the code points
that follow.

* `entries` reads a row;
* `find?` looks up a code point.
-/

namespace LinkedSelect.CodeTable

/-- A code point in hexadecimal. -/
def codePoint (cs : List Char) : Nat :=
  cs.foldl (fun n c => n * 16 + (Hex.value? c.toNat).getD 0) 0

/-- The code points of each entry of a row. -/
def entries (row : String) : List (List Nat) :=
  (Split.splitOn (· == ' ') row.toList).map fun entry => (Split.splitOn (· == '+') entry).map codePoint

/-- The entry of a code point. -/
def find? (rows : List (Nat × String)) (n : Nat) : Option (List Nat) :=
  rows.findSome? fun (first, row) =>
    -- a row has fewer entries than characters
    if first ≤ n ∧ n < first + row.utf8ByteSize then (entries row)[n - first]? else none

end LinkedSelect.CodeTable
