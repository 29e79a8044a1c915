import LinkedSelect.Reply
import LinkedSelect.Proofs.Json.Conversion
import LinkedSelect.Proofs.Json.Reading
import LinkedSelect.Proofs.Json.Writing

/-!
# Which texts hold choices, and which choices they hold

Whatever text a value is written as, it is decoded just where the value lists choices, and into those choices
(`Reply.ok_iff_lists`); the body of an answer is decoded like a text by itself.

A literal can be a floating point number where the decoder's conversion of it (`Json.Literal.scaled?`) does not
overflow, and the number is near the one that is written then (`Json.Literal.Scales`). That is not quite where the
nearest floating point number (`Json.Literal.nearest?`) is finite: the largest one is refused if all its digits are
written (`Reply.largest_refused`).
-/

namespace LinkedSelect

namespace Reply

open Json

theorem mapError_eq_ok {ε ε' α : Type} {x : Except ε α} {f : ε → ε'} {a : α} : x.mapError f = .ok a ↔ x = .ok a := by
  cases x <;> simp [Except.mapError]

theorem ofJson_eq_ok {s : List UInt8} {cs : List Choice} : ofJson s = .ok cs ↔ readWhole s = .ok cs := by
  rw [ofJson, ChoiceList.decode, mapError_eq_ok, mapError_eq_ok]

theorem ofBody_eq_ok {s : List UInt8} {cs : List Choice} : ofBody s = .ok cs ↔ readWhole s = .ok cs := by
  rw [ofBody, ChoiceList.decode, mapError_eq_ok, mapError_eq_ok]

/-- **A text holds choices just where its value lists them.** However a value is written, its text is decoded where the
value is an object with at most one list of choices, or a list of at most that, and then into these choices in their
order, be it a text by itself or the body of an answer.

A literal of at most `2 ^ 30` digits that is read as a floating point number is accepted below `2 ^ 1024 - 2 ^ 973` and
refused from `2 ^ 1024 + 2 ^ 972` on; the number has its sign and is near it, and it is the nearest one if the literal
is an integer of 64 bits, or has a small significand and a small power of ten. A literal has a nearest finite number
just below `2 ^ 1024 - 2 ^ 970`. -/
theorem ok_iff_lists {v : Value} {s : List UInt8} (h : v.IsText s) (cs : List Choice) :
    (ofJson s = .ok cs ↔ v.Lists Literal.scaled? cs) ∧ (ofBody s = .ok cs ↔ v.Lists Literal.scaled? cs) ∧
      ∀ l : Literal, ((l.whole ++ l.fraction).length ≤ 2 ^ 30 → l.Scales) ∧
        (l.nearest? = none ↔ Binary64.overflowBound ≤ l.size) ∧
        ∀ x, l.nearest? = some x → x.IsNearest l.negative l.size := by
  rw [ofJson_eq_ok, ofBody_eq_ok]
  exact ⟨h.readWhole cs, h.readWhole cs, fun l =>
    ⟨l.scales, Literal.nearest?_eq_none_iff, fun _ => Literal.isNearest_of_nearest?⟩⟩

/-- A literal without a point. -/
def wholeLiteral (negative : Bool) (d : Fin 10) (ds : List (Fin 10)) (exponent : Option Exponent)
    (h : d ≠ 0 ∨ ds = []) : Literal where
  negative := negative
  whole := d :: ds
  fraction := []
  exponent := exponent
  whole_form := by
    by_cases hd : d = 0
    · exact .inl (by rw [hd, h.resolve_left (not_not_intro hd)])
    · exact .inr ⟨d, ds, rfl, hd⟩

/-- A value that lists choices of every form between members that nobody asks for, one of them out of range. -/
def mixedListing : Value :=
  .object
    [("count", .number (wholeLiteral false 1 [] (some ⟨true, none, [9, 9, 9], by decide⟩) (by decide))),
      ("results", .list
        [.object
            [("name", .null), ("more", .list [.boolean true, .object [("id", .null)]]),
              ("id", .number (wholeLiteral false 9 [2, 2, 3, 3, 7, 2, 0, 3, 6, 8, 5, 4, 7, 7, 5, 8, 0, 8] none
                (by decide)))],
          .list [.text "12", .text "Rack \"7\"\n\u2714"],
          .list [.number (wholeLiteral true 0 [] none (by decide))]])]

/-- The largest floating point number, in the seventeen digits that tell it from all others. -/
def largest : Literal where
  negative := false
  whole := [1]
  fraction := [7, 9, 7, 6, 9, 3, 1, 3, 4, 8, 6, 2, 3, 1, 5, 8]
  exponent := some ⟨false, none, [3, 0, 8], by decide⟩
  whole_form := .inr ⟨1, [], rfl, by decide⟩

theorem mixedListing_decodes : mixedListing.IsText mixedListing.octets ∧
    ofBody mixedListing.octets =
      .ok [⟨.unsigned 9223372036854775808, ""⟩, ⟨.text "12", "Rack \"7\"\n\u2714"⟩,
        ⟨.float (.ofMagnitude true 0), ""⟩] ∧
    largest.Scales := by
  obtain ⟨-, body, literals⟩ := ok_iff_lists mixedListing.isText_octets
    [⟨.unsigned 9223372036854775808, ""⟩, ⟨.text "12", "Rack \"7\"\n\u2714"⟩, ⟨.float (.ofMagnitude true 0), ""⟩]
  refine ⟨mixedListing.isText_octets, body.mpr ?_, (literals largest).1 (by decide)⟩
  refine .object (.once (.list (.cons ?_ (.cons ?_ (.cons ?_ .nil)))))
  · exact .object (.once (.number (.unsigned (by decide) (by decide)))) (.once .null)
  · exact .list .text (.once .text)
  · exact .list (.number (.float (by decide) (by decide))) (.missing rfl)

/-- A list of one choice with the largest number for its id. -/
def largestListing : Value :=
  .object [("results", .list [.object [("id", .number largest)]])]

/-- The nearest floating point number is finite for some id with which a text is refused. -/
theorem largest_refused :
    ¬∀ (v : Value) (s : List UInt8), v.IsText s →
      ((∃ cs, ofJson s = .ok cs) ↔ ∃ cs, v.Lists Literal.nearest? cs) := by
  intro h
  have near : largest.nearest? = some (.ofMagnitude false (Binary64.infinity - 1)) := by decide +kernel
  have refused {id : ChoiceId} : ¬largest.Identifies Literal.scaled? id := by
    have far : largest.scaled? = none := by decide +kernel
    intro hl
    cases hl with
    | number hn => cases hn
    | unsigned hn _ => cases hn
    | float _ hx =>
      rw [far] at hx
      cases hx
  have lists : largestListing.Lists Literal.nearest? [⟨.float (.ofMagnitude false (Binary64.infinity - 1)), ""⟩] :=
    .object (.once (.list (.cons (.object (.once (.number (.float (by decide) near))) (.missing rfl)) .nil)))
  obtain ⟨cs, hcs⟩ := (h _ _ largestListing.isText_octets).mpr ⟨_, lists⟩
  rw [ofJson_eq_ok, largestListing.isText_octets.readWhole] at hcs
  cases hcs with
  | object hr =>
    obtain ⟨hr⟩ := (holds_singleton (v := .list [.object [("id", .number largest)]])).mp hr
    rcases hr with _ | ⟨hc, -⟩
    cases hc with
    | object hi _ =>
      obtain ⟨hl⟩ := (holds_singleton (v := .number largest)).mp hi
      exact refused hl

end Reply

end LinkedSelect
