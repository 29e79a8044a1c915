import LinkedSelect.Json.Octet
import LinkedSelect.Text.Hex

/-!
# JSON values and their texts

A `Value` is what a JSON text stands for, with its numbers as they are written and its members in order, repeated or
not. Each part of the grammar relates a text, what it stands for, and the rest of the octets behind it: `v.Writes s r`
says that `s` is a text of the value `v` and then `r`.

* `Blanks` may stand around every token, and `Spells` lists all ways to write a character of a string;
* `Value.Writes`, `Elements` and `Members` are the values, and what stands between the brackets of lists and objects;
* behind a number that is an element or a member comes nothing that could be part of it (`Elements.delimited`,
  `Members.delimited`).
-/

namespace LinkedSelect.Json

/-! ## Numbers -/

/-- The octet of a digit. -/
def digitOctet (d : Fin 10) : UInt8 :=
  UInt8.ofNat (48 + d)

/-- The exponent of a number as it is written. -/
structure Exponent where
  /-- the letter is a capital -/
  capital : Bool
  /-- the sign, if there is one; true for a minus -/
  sign : Option Bool
  digits : List (Fin 10)
  nonempty : digits ≠ []

namespace Exponent

/-- The sign of an exponent as it is written. -/
def signOctets (e : Exponent) : List UInt8 :=
  match e.sign with
  | none => []
  | some false => [plus]
  | some true => [minus]

/-- The text of an exponent. -/
def octets (e : Exponent) : List UInt8 :=
  (if e.capital then 69 else 101) :: (e.signOctets ++ e.digits.map digitOctet)

end Exponent

/-- A number as it is written: without a zero in front of other digits, and with a point only in front of digits. -/
structure Literal where
  negative : Bool
  whole : List (Fin 10)
  /-- the digits behind the point, none if there is no point -/
  fraction : List (Fin 10)
  exponent : Option Exponent
  whole_form : whole = [0] ∨ ∃ d ds, whole = d :: ds ∧ d ≠ 0

namespace Literal

/-- The point and the digits behind it. -/
def fractionOctets (l : Literal) : List UInt8 :=
  if l.fraction = [] then [] else point :: l.fraction.map digitOctet

/-- The exponent, if there is one. -/
def exponentOctets (l : Literal) : List UInt8 :=
  match l.exponent with
  | none => []
  | some e => e.octets

/-- The text of a number behind its sign. -/
def unsigned (l : Literal) : List UInt8 :=
  l.whole.map digitOctet ++ (l.fractionOctets ++ l.exponentOctets)

/-- The text of a number. -/
def octets (l : Literal) : List UInt8 :=
  (if l.negative then [minus] else []) ++ l.unsigned

end Literal

/-! ## Blanks and strings -/

/-- `s` is `r` with any number of blanks in front. -/
inductive Blanks : List UInt8 → List UInt8 → Prop
  | none {r : List UInt8} : Blanks r r
  | cons {b : UInt8} {s r : List UInt8} (hb : isBlank b = true) (h : Blanks s r) : Blanks (b :: s) r

/-- `s` is `r` with the number `n` in front, in four hexadecimal digits of either case. -/
def Hex4 (n : Nat) (s r : List UInt8) : Prop :=
  ∃ a b c d x y z w, s = a :: b :: c :: d :: r ∧ Hex.value? a.toNat = some x ∧ Hex.value? b.toNat = some y ∧
    Hex.value? c.toNat = some z ∧ Hex.value? d.toNat = some w ∧ n = ((x * 16 + y) * 16 + z) * 16 + w

/-- The letters of the short escapes, and what they stand for. -/
def shortEscapes : List (UInt8 × Char) :=
  [(quote, '"'), (backslash, '\\'), (47, '/'), (98, '\x08'), (102, '\x0c'), (110, '\n'), (114, '\r'), (116, '\t')]

/-- `s` is `r` with a character of a string in front: as it is, as a short escape, as an escape by number, or as a pair
of them. -/
inductive Spelled (c : Char) : List UInt8 → List UInt8 → Prop
  | plain {r : List UInt8} (hlow : 32 ≤ c.toNat) (hq : c ≠ '"') (hb : c ≠ '\\') :
      Spelled c (String.utf8EncodeChar c ++ r) r
  | short {letter : UInt8} {r : List UInt8} (h : (letter, c) ∈ shortEscapes) : Spelled c (backslash :: letter :: r) r
  | unit {s r : List UInt8} (h : Hex4 c.toNat s r) : Spelled c (backslash :: 117 :: s) r
  | pair {high low : Nat} {s t r : List UInt8} (hh : Hex4 high s (backslash :: 117 :: t)) (hl : Hex4 low t r)
      (hhigh : 0xD800 ≤ high ∧ high ≤ 0xDBFF) (hlow : 0xDC00 ≤ low ∧ low ≤ 0xDFFF)
      (hc : c.toNat = 0x10000 + (high - 0xD800) * 0x400 + (low - 0xDC00)) : Spelled c (backslash :: 117 :: s) r

/-- `s` is `r` with the characters of a string in front and its closing quote. -/
inductive Spells : List Char → List UInt8 → List UInt8 → Prop
  | close {r : List UInt8} : Spells [] (quote :: r) r
  | cons {c : Char} {cs : List Char} {s t r : List UInt8} (h : Spelled c s t) (hs : Spells cs t r) :
      Spells (c :: cs) s r

/-! ## Values -/

/-- What a JSON text stands for. -/
inductive Value
  | null
  | boolean (b : Bool)
  | number (l : Literal)
  | text (s : String)
  | list (vs : List Value)
  | object (ms : List (String × Value))

mutual

/-- `s` is `r` with a text of the value in front. -/
inductive Value.Writes : Value → List UInt8 → List UInt8 → Prop
  | null {r : List UInt8} : Value.Writes .null (110 :: 117 :: 108 :: 108 :: r) r
  | yes {r : List UInt8} : Value.Writes (.boolean true) (116 :: 114 :: 117 :: 101 :: r) r
  | no {r : List UInt8} : Value.Writes (.boolean false) (102 :: 97 :: 108 :: 115 :: 101 :: r) r
  | number {l : Literal} {r : List UInt8} : Value.Writes (.number l) (l.octets ++ r) r
  | text {cs : List Char} {s r : List UInt8} (h : Spells cs s r) :
      Value.Writes (.text (String.ofList cs)) (quote :: s) r
  | list {vs : List Value} {s r : List UInt8} (h : Elements true vs s r) : Value.Writes (.list vs) (openList :: s) r
  | object {ms : List (String × Value)} {s r : List UInt8} (h : Members true ms s r) :
      Value.Writes (.object ms) (openObject :: s) r

/-- `s` is `r` with what is left of a list in front, up to its closing bracket; `first` tells whether the bracket was
opened just before. -/
inductive Elements : Bool → List Value → List UInt8 → List UInt8 → Prop
  | close {first : Bool} {s r : List UInt8} (h : Blanks s (closeList :: r)) : Elements first [] s r
  | first {v : Value} {vs : List Value} {s t u r : List UInt8} (h : Blanks s t) (hv : v.Writes t u)
      (ht : Elements false vs u r) : Elements true (v :: vs) s r
  | next {v : Value} {vs : List Value} {s s' t u r : List UInt8} (hc : Blanks s (comma :: s')) (h : Blanks s' t)
      (hv : v.Writes t u) (ht : Elements false vs u r) : Elements false (v :: vs) s r

/-- `s` is `r` with what is left of an object in front, up to its closing brace. -/
inductive Members : Bool → List (String × Value) → List UInt8 → List UInt8 → Prop
  | close {first : Bool} {s r : List UInt8} (h : Blanks s (closeObject :: r)) : Members first [] s r
  | first {key : List Char} {v : Value} {ms : List (String × Value)} {s s₁ s₂ s₃ t u r : List UInt8}
      (h : Blanks s (quote :: s₁)) (hk : Spells key s₁ s₂) (hc : Blanks s₂ (colon :: s₃)) (hb : Blanks s₃ t)
      (hv : v.Writes t u) (ht : Members false ms u r) : Members true ((String.ofList key, v) :: ms) s r
  | next {key : List Char} {v : Value} {ms : List (String × Value)} {s s₀ s₁ s₂ s₃ t u r : List UInt8}
      (h₀ : Blanks s (comma :: s₀)) (h : Blanks s₀ (quote :: s₁)) (hk : Spells key s₁ s₂)
      (hc : Blanks s₂ (colon :: s₃)) (hb : Blanks s₃ t) (hv : v.Writes t u) (ht : Members false ms u r) :
      Members false ((String.ofList key, v) :: ms) s r

end

/-- The whole text is one of this value. -/
def Value.IsText (v : Value) (s : List UInt8) : Prop :=
  ∃ t u, Blanks s t ∧ v.Writes t u ∧ Blanks u []

/-! ## What follows a token -/

theorem skipBlanks_of_blanks {s r : List UInt8} (h : Blanks s r) : skipBlanks s = skipBlanks r := by
  induction h with
  | none => rfl
  | cons hb _ ih => rw [← ih, skipBlanks, List.dropWhile_cons_of_pos hb, skipBlanks]

theorem skipBlanks_cons {c : UInt8} (hc : isBlank c = false) (r : List UInt8) : skipBlanks (c :: r) = c :: r := by
  simp [skipBlanks, hc]

/-- The first octet behind the blanks is found. -/
theorem skipBlanks_eq {c : UInt8} {s r : List UInt8} (h : Blanks s (c :: r)) (hc : isBlank c = false) :
    skipBlanks s = c :: r := by
  rw [skipBlanks_of_blanks h, skipBlanks_cons hc]

/-- What comes next is no part of a number. -/
def Delimited (r : List UInt8) : Prop :=
  ∀ c t, r = c :: t → isDigit c = false ∧ c ≠ point ∧ isExponentMark c = false

/-- Blanks are no part of a number. -/
theorem delimited_of_blanks {s r : List UInt8} (h : Blanks s r) (hr : Delimited r) : Delimited s := by
  cases h with
  | none => exact hr
  | @cons b s r hb h =>
    intro c t hs
    cases hs
    simp only [isBlank, Bool.or_eq_true, beq_iff_eq] at hb
    rcases hb with ((rfl | rfl) | rfl) | rfl <;> decide

theorem delimited_cons {c : UInt8} (hc : isDigit c = false ∧ c ≠ point ∧ isExponentMark c = false)
    (r : List UInt8) : Delimited (c :: r) := by
  intro d t h
  cases h
  exact hc

/-- What follows an element is no part of a number. -/
theorem Elements.delimited {vs : List Value} {s r : List UInt8} (h : Elements false vs s r) : Delimited s := by
  cases h with
  | close h => exact delimited_of_blanks h (delimited_cons (by decide) _)
  | next hc _ _ _ => exact delimited_of_blanks hc (delimited_cons (by decide) _)

/-- What follows a member is no part of a number. -/
theorem Members.delimited {ms : List (String × Value)} {s r : List UInt8} (h : Members false ms s r) :
    Delimited s := by
  cases h with
  | close h => exact delimited_of_blanks h (delimited_cons (by decide) _)
  | next h₀ _ _ _ _ _ _ => exact delimited_of_blanks h₀ (delimited_cons (by decide) _)

end LinkedSelect.Json
