import LinkedSelect.Text.Canonical
import LinkedSelect.Text.CombiningClass

/-!
# Composed normal form

Texts that look the same may be made of different characters: a letter with a mark is one character or two, and marks
that do not touch come in any order. `compose` gives the one form in which marks are in order and characters are as few
as can be.

* `expand` writes every character by its parts;
* `order` brings the marks behind a character in ascending order of their classes;
* `join` puts parts together again.
-/

namespace LinkedSelect.Normal

/-- A character written by its two parts, if it has any. -/
def split (c : Char) : List Char :=
  match Canonical.parts? c with
  | some (a, b) => [a, b]
  | none => [c]

/-- Characters written by their parts; the first part of one may have parts itself, but not those of that. -/
def expand (cs : List Char) : List Char :=
  (cs.flatMap split).flatMap split

/-- Puts a mark behind the marks of lower classes at the front. -/
def insert (c : Char) : List Char → List Char
  | [] => [c]
  | d :: ds =>
    if 0 < CombiningClass.ofChar d ∧ CombiningClass.ofChar d < CombiningClass.ofChar c then d :: insert c ds
    else c :: d :: ds

/-- Marks in ascending order of their classes; those of one class stay in their order. -/
def order (cs : List Char) : List Char :=
  cs.foldr (fun c cs => if CombiningClass.ofChar c = 0 then c :: cs else insert c cs) []

/-- Puts parts together, with a character to put them to and the marks that stay behind it. -/
def joinTo (base : Char) (marks : List Char) : List Char → List Char
  | [] => base :: marks
  | c :: cs =>
    let reached := marks.getLast?.all fun mark => CombiningClass.ofChar mark < CombiningClass.ofChar c
    match if reached then Canonical.compose? base c else none with
    | some whole => joinTo whole marks cs
    | none => if CombiningClass.ofChar c = 0 then base :: marks ++ joinTo c [] cs else joinTo base (marks ++ [c]) cs

/-- Puts parts together; marks in front of the first other character stay as they are. -/
def join (cs : List Char) : List Char :=
  let isMark (c : Char) : Bool := CombiningClass.ofChar c ≠ 0
  match cs.dropWhile isMark with
  | [] => cs
  | base :: rest => cs.takeWhile isMark ++ joinTo base [] rest

/-- The composed form. Below the first mark every text is its own. -/
def compose (cs : List Char) : List Char :=
  if cs.all (·.toNat < 0x300) then cs else join (order (expand cs))

end LinkedSelect.Normal
