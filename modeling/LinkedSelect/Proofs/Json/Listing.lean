import Mathlib.Algebra.Group.Int.Defs
import Mathlib.Algebra.Group.Nat.Defs
import Mathlib.Data.List.Forall2
import LinkedSelect.Json.Choice
import LinkedSelect.Proofs.Json.Numbers

/-!
# The choices that a value lists

Which JSON values are lists of choices, and of which choices, in terms of the values alone:

* a literal is an id by its value (`Literal.Identifies`), and so is any string; which literals can be taken for floating
  point numbers, and for which ones, is a parameter;
* a member that may stand once, or that a default may stand for, `Holds` what its value is read as;
* `Value.Offers` says which choice a value is, and `Value.Lists` which choices it lists.
-/

namespace LinkedSelect.Json

/-! ## Members -/

/-- The values of the members with this name, in order. -/
def valuesOf (name : String) (ms : List (String × Value)) : List Value :=
  (ms.filter fun m => m.1 = name).map Prod.snd

/-- What the only value is read as, or the default where there is none. -/
inductive Holds {α : Type} (P : Value → α → Prop) (default? : Option α) : List Value → α → Prop
  | missing {a : α} (h : default? = some a) : Holds P default? [] a
  | once {v : Value} {a : α} (h : P v a) : Holds P default? [v] a

/-- What is held in the end where `read?` has been read before the values. -/
def Remains {α : Type} (P : Value → α → Prop) (default? read? : Option α) (vs : List Value) (a : α) : Prop :=
  match read? with
  | none => Holds P default? vs a
  | some b => vs = [] ∧ b = a

section

variable {α : Type} {P : Value → α → Prop} {default? read? : Option α} {v : Value} {vs : List Value} {a : α}

theorem holds_nil : Holds P default? [] a ↔ default? = some a := by
  constructor
  · rintro (h | _)
    exact h
  · exact .missing

theorem holds_singleton : Holds P default? [v] a ↔ P v a := by
  constructor
  · rintro (_ | h)
    exact h
  · exact .once

/-- Nothing is held where values are repeated. -/
theorem not_holds_cons_cons {w : Value} : ¬Holds P default? (v :: w :: vs) a := by
  rintro ⟨⟩

/-- Where no value is left, it is what was read before, or else the default. -/
theorem remains_nil : Remains P default? read? [] a ↔ read?.or default? = some a := by
  cases read? with
  | some b => simp [Remains]
  | none =>
    rw [Option.none_or]
    exact holds_nil

/-- Another value is read only where none was, and none is read behind it. -/
theorem remains_cons :
    Remains P default? read? (v :: vs) a ↔ read? = none ∧ ∃ b, P v b ∧ Remains P default? (some b) vs a := by
  cases read? with
  | some b => simp [Remains]
  | none =>
    simp only [Remains, true_and]
    constructor
    · rintro (_ | h)
      exact ⟨a, h, rfl, rfl⟩
    · rintro ⟨_, h, rfl, rfl⟩
      exact .once h

end

/-! ## Ids -/

/-- The literal is this id: an integer that fits 64 bits with a sign, or without one, or else a floating point number,
if it can be taken for one. -/
inductive Literal.Identifies (real? : Literal → Option Binary64) (l : Literal) : ChoiceId → Prop
  | number {n : Int64} (h : l.integer? = some n.toInt) : l.Identifies real? (.number n)
  | unsigned {n : UInt64} (h : l.integer? = some (n.toNat : Int)) (hn : 2 ^ 63 ≤ n.toNat) :
      l.Identifies real? (.unsigned n)
  | float {x : Binary64} (h : ∀ n, l.integer? = some n → n < -2 ^ 63 ∨ 2 ^ 64 ≤ n) (hx : real? l = some x) :
      l.Identifies real? (.float x)

/-- The value is this id. -/
inductive Value.Identifies (real? : Literal → Option Binary64) : Value → ChoiceId → Prop
  | number {l : Literal} {id : ChoiceId} (h : l.Identifies real? id) : Value.Identifies real? (.number l) id
  | text {s : String} : Value.Identifies real? (.text s) (.text s)

/-! ## Choices -/

/-- The value is this name. -/
inductive Value.Names : Value → String → Prop
  | null : Value.Names .null ""
  | text {s : String} : Value.Names (.text s) s

/-- The value is this choice: an object with one id and at most one name, or a list of an id and at most a name. -/
inductive Value.Offers (real? : Literal → Option Binary64) : Value → Choice → Prop
  | object {ms : List (String × Value)} {c : Choice} (hi : Holds (Value.Identifies real?) none (valuesOf "id" ms) c.id)
      (hn : Holds Value.Names (some "") (valuesOf "name" ms) c.name) : Value.Offers real? (.object ms) c
  | list {v : Value} {vs : List Value} {c : Choice} (hi : v.Identifies real? c.id)
      (hn : Holds Value.Names (some "") vs c.name) : Value.Offers real? (.list (v :: vs)) c

theorem offers_list {real? : Literal → Option Binary64} {v : Value} {vs : List Value} {c : Choice} :
    (Value.list (v :: vs)).Offers real? c ↔ v.Identifies real? c.id ∧ Holds Value.Names (some "") vs c.name := by
  constructor
  · rintro (_ | ⟨hi, hn⟩)
    exact ⟨hi, hn⟩
  · rintro ⟨hi, hn⟩
    exact .list hi hn

/-- The value is a list of these choices in this order. -/
inductive Value.Results (real? : Literal → Option Binary64) : Value → List Choice → Prop
  | list {vs : List Value} {cs : List Choice} (h : List.Forall₂ (Value.Offers real?) vs cs) :
      Value.Results real? (.list vs) cs

/-- The value lists these choices: an object with at most one member for them, or a list of at most that. -/
inductive Value.Lists (real? : Literal → Option Binary64) : Value → List Choice → Prop
  | object {ms : List (String × Value)} {cs : List Choice}
      (h : Holds (Value.Results real?) (some []) (valuesOf "results" ms) cs) : Value.Lists real? (.object ms) cs
  | list {vs : List Value} {cs : List Choice} (h : Holds (Value.Results real?) (some []) vs cs) :
      Value.Lists real? (.list vs) cs

/-! ## The numbers that are read, as ids -/

namespace Literal

variable {l : Literal}

/-- The integer that is written, by the sign and the value of its digits. -/
theorem integer?_eq_some {n : Int} :
    l.integer? = some n ↔ l.isWhole = true ∧ ¬(l.negative = true ∧ valueOf l.whole = 0) ∧
      (if l.negative then -valueOf l.whole else valueOf l.whole : Int) = n := by
  rw [integer?]
  split
  · next h => simp [h.1, h.2]
  · next h =>
    simp only [reduceCtorEq, false_iff]
    exact fun hn => h ⟨hn.1, hn.2.1⟩

/-- An integer of at most 64 bits is read as it is. -/
theorem number?_of_integer? {n : Int} (h : l.integer? = some n) (hlow : -2 ^ 63 ≤ n) (hhigh : n < 2 ^ 64) :
    l.number? = some (.integer n) := by
  obtain ⟨hw, hz, hn⟩ := integer?_eq_some.mp h
  rw [number?]
  cases hneg : l.negative with
  | false =>
    simp only [hneg, Bool.false_eq_true, if_false] at hn
    rw [if_pos ⟨hw, by unfold wordBound; omega⟩, ← hn]
    rfl
  | true =>
    simp only [hneg, if_true, true_and] at hn hz
    rw [if_pos ⟨hw, by unfold wordBound; omega⟩, Number.ofInteger, if_pos rfl,
      if_neg (by unfold signedBound; omega), hn]

/-- Any other literal is read as the floating point number that it can be taken for. -/
theorem number?_of_not_integer (h : ∀ n, l.integer? = some n → n < -2 ^ 63 ∨ 2 ^ 64 ≤ n) :
    l.number? = l.scaled?.map .real := by
  rw [number?, scaled?]
  split
  · next hw =>
    have hv := hw.2
    unfold wordBound at hv
    cases hneg : l.negative with
    | false =>
      have := h (valueOf l.whole) (integer?_eq_some.mpr ⟨hw.1, by simp [hneg], by simp [hneg]⟩)
      omega
    | true =>
      have large : valueOf l.whole = 0 ∨ signedBound < valueOf l.whole := by
        by_cases hz : valueOf l.whole = 0
        · exact .inl hz
        · have := h (-valueOf l.whole) (integer?_eq_some.mpr ⟨hw.1, by simp [hz], by simp [hneg]⟩)
          unfold signedBound
          omega
      simp only [Number.ofInteger, if_pos large, withSign, hneg, Option.map_some, if_true]
  · rw [Option.map_map]
    rfl

/-- A literal is the id of the number that it is read as. -/
theorem identifies_iff {id : ChoiceId} : l.Identifies scaled? id ↔ ∃ n, l.number? = some n ∧ n.toId = id := by
  constructor
  · intro h
    cases h with
    | @number n h =>
      have hlow := n.le_toInt
      have hhigh := n.toInt_lt
      refine ⟨.integer n.toInt, number?_of_integer? h hlow (by omega), ?_⟩
      rw [Number.toId, if_pos (by unfold signedBound; omega), Int64.ofInt_toInt]
    | @unsigned n h hn =>
      have hhigh := n.toNat_lt
      refine ⟨.integer n.toNat, number?_of_integer? h (by omega) (by omega), ?_⟩
      rw [Number.toId, if_neg (by unfold signedBound; omega), Int.toNat_natCast, UInt64.ofNat_toNat]
    | float h hx =>
      rw [number?_of_not_integer h, hx]
      exact ⟨_, rfl, rfl⟩
  · rintro ⟨n, hn, rfl⟩
    by_cases hfits : ∃ m, l.integer? = some m ∧ -2 ^ 63 ≤ m ∧ m < 2 ^ 64
    · obtain ⟨m, hm, hlow, hhigh⟩ := hfits
      rw [number?_of_integer? hm hlow hhigh] at hn
      cases hn
      rw [Number.toId]
      split
      · next hs =>
        unfold signedBound at hs
        refine .number ?_
        rw [hm, Int64.toInt_ofInt_of_le hlow (by omega)]
      · next hs =>
        unfold signedBound at hs
        have exact : (UInt64.ofNat m.toNat).toNat = m.toNat := UInt64.toNat_ofNat_of_lt' (by unfold UInt64.size; omega)
        refine .unsigned ?_ ?_
        · rw [hm, exact, Int.toNat_of_nonneg (by omega)]
        · rw [exact]
          omega
    · have other : ∀ m, l.integer? = some m → m < -2 ^ 63 ∨ 2 ^ 64 ≤ m := by
        intro m hm
        by_contra hc
        exact hfits ⟨m, hm, by omega, by omega⟩
      rw [number?_of_not_integer other, Option.map_eq_some_iff] at hn
      obtain ⟨x, hx, rfl⟩ := hn
      exact .float other hx

end Literal

end LinkedSelect.Json
