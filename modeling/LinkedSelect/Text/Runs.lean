/-!
# Sets of code points by run lengths

A set is the list of the lengths of its runs from code point zero on, first of members, then of others, and so on by
turns. What follows the last run is outside.
-/

namespace LinkedSelect.Runs

/-- The code point `n` places into the runs is a member, the first run being one of members if `inside`. -/
def holdsFrom (inside : Bool) : List Nat → Nat → Bool
  | [], _ => false
  | run :: rest, n => if n < run then inside else holdsFrom (!inside) rest (n - run)

/-- Membership in the set with these runs. -/
def holds (runs : List Nat) (n : Nat) : Bool :=
  holdsFrom true runs n

end LinkedSelect.Runs
