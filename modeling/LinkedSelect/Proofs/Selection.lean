import Mathlib.Algebra.Group.Int.Defs
import Mathlib.Data.List.Nodup
import LinkedSelect.Proofs.Replies

/-!
# Which entry a populated select has selected

* A populated select shows the placeholder and the choices, whatever it showed before. It selects the first choice that
  has the text that was asked for, and otherwise the placeholder, even if a choice has the empty text too.
* Integers are shown by their decimal digits in either form of an id (`ChoiceId.display_of_integer?`), from which they
  can be read back, so two choices have the same text only if they have the same integer
  (`ChoiceId.integer?_eq_of_display`).
* `Select.populate_selects_first` puts these together.
-/

namespace LinkedSelect

/-! ## Integers as ids -/

namespace ChoiceId

variable {a b : ChoiceId} {m n : Int}

/-- The integer that an id is, if it is one. -/
def integer? : ChoiceId → Option Int
  | .number n => some n.toInt
  | .unsigned n => some n.toNat
  | .float _ => none
  | .text _ => none

/-- The integers that ids can be are those of 64 bits, with a sign or without one. -/
theorem exists_integer?_iff : (∃ id : ChoiceId, id.integer? = some n) ↔ -2 ^ 63 ≤ n ∧ n < 2 ^ 64 := by
  constructor
  · rintro ⟨id, h⟩
    cases id with
    | number m =>
      have hlow := m.le_toInt
      have hhigh := m.toInt_lt
      cases h
      omega
    | unsigned m =>
      have hhigh := m.toNat_lt
      cases h
      omega
    | float x => cases h
    | text s => cases h
  · rintro ⟨hlow, hhigh⟩
    by_cases hs : n < 2 ^ 63
    · exact ⟨.number (Int64.ofInt n), by rw [integer?, Int64.toInt_ofInt_of_le hlow hs]⟩
    · refine ⟨.unsigned (UInt64.ofNat n.toNat), ?_⟩
      rw [integer?, UInt64.toNat_ofNat_of_lt' (by unfold UInt64.size; omega), Int.toNat_of_nonneg (by omega)]

/-- An integer is shown by its decimal digits, whichever form the id has. -/
theorem display_of_integer? (h : a.integer? = some n) : a.display = toString n := by
  cases a with
  | number m =>
    cases h
    rfl
  | unsigned m =>
    cases h
    rfl
  | float x => cases h
  | text s => cases h

/-- An integer is shown by one digit at least. -/
theorem display_ne_empty_of_integer? (h : a.integer? = some n) : a.display ≠ "" := by
  rw [display_of_integer? h, Int.toString_eq_repr, Int.repr_eq_if]
  split
  · exact Nat.repr_ne_empty
  · simp

/-- The integer that decimal digits stand for, behind a minus or not. -/
def ofDecimal : List Char → Int
  | '-' :: ds => -Nat.ofDigitChars 10 ds 0
  | ds => Nat.ofDigitChars 10 ds 0

/-- An integer is read back from its decimal digits. -/
theorem ofDecimal_toString (n : Int) : ofDecimal (toString n).toList = n := by
  rw [Int.toString_eq_repr, Int.repr_eq_if]
  split
  · next hn =>
    have read : ofDecimal (Nat.toDigits 10 n.toNat) = Nat.ofDigitChars 10 (Nat.toDigits 10 n.toNat) 0 := by
      unfold ofDecimal
      split
      · next ds h =>
        -- a minus is no digit
        have minus : '-' ∈ Nat.toDigits 10 n.toNat := h ▸ List.mem_cons_self
        exact absurd (Nat.isDigit_of_mem_toDigits (by decide) (by decide) minus) (by decide)
      · rfl
    rw [Nat.toList_repr, read, Nat.ofDigitChars_ten_toDigits, Int.toNat_of_nonneg hn]
  · rw [String.toList_append, Nat.toList_repr]
    show -((Nat.ofDigitChars 10 (Nat.toDigits 10 (-n).toNat) 0 : Nat) : Int) = n
    rw [Nat.ofDigitChars_ten_toDigits]
    omega

/-- Integers that are shown alike are the same. -/
theorem integer?_eq_of_display (ha : a.integer? = some m) (hb : b.integer? = some n)
    (h : a.display = b.display) : a.integer? = b.integer? := by
  rw [display_of_integer? ha, display_of_integer? hb] at h
  rw [ha, hb, ← ofDecimal_toString m, ← ofDecimal_toString n, h]

end ChoiceId

/-! ## What is selected -/

namespace Select

variable {choices : List Choice} {wanted : Option String} {w : String}

/-- The choice that is selected is the first with the text that was asked for. -/
theorem selected?_of_offered (s : Select) (hw : wanted = some w) (hne : w ≠ "")
    (ho : ∃ c ∈ choices, c.id.display = w) :
    ∃ before c after, choices = before ++ c :: after ∧ (∀ b ∈ before, b.id.display ≠ w) ∧ c.id.display = w ∧
      (s.populate choices wanted).selected? = some ⟨w, c.name⟩ := by
  cases hc : choices.find? fun c => c.id.display = w with
  | none =>
    obtain ⟨c, hmem, hd⟩ := ho
    exact absurd hd (by simpa using List.find?_eq_none.mp hc c hmem)
  | some c =>
    obtain ⟨hd, before, after, hsplit, hbefore⟩ := List.find?_eq_some_iff_append.mp hc
    have hd : c.id.display = w := of_decide_eq_true hd
    refine ⟨before, c, after, hsplit, fun b hb => by simpa using hbefore b hb, hd, ?_⟩
    rw [selected?_populate, hit?_eq_some_iff.mpr ⟨hw, hne, ho⟩]
    simp only [hc, Option.map_some, Entry.ofChoice, hd]

/-- Among choices with different integers, the one with the integer that was asked for is selected, and no other has
its text. -/
theorem selected?_of_integer? (s : Select) (hall : ∀ c ∈ choices, c.id.integer?.isSome)
    (hnodup : (choices.map (·.id.integer?)).Nodup) {c : Choice} (hc : c ∈ choices) {n : Int}
    (hn : c.id.integer? = some n) :
    (s.populate choices (some (toString n))).selected? = some (.ofChoice c) ∧
      ∀ d ∈ choices, d.id.display = toString n → d = c := by
  have hd := ChoiceId.display_of_integer? hn
  -- one text is one integer, whichever form each of the two ids has
  have only : ∀ d ∈ choices, d.id.display = toString n → d = c := by
    intro d hmem hsame
    obtain ⟨m, hm⟩ := Option.isSome_iff_exists.mp (hall d hmem)
    exact List.inj_on_of_nodup_map hnodup hmem hc (ChoiceId.integer?_eq_of_display hm hn (hsame.trans hd.symm))
  have hne : toString n ≠ "" := hd ▸ ChoiceId.display_ne_empty_of_integer? hn
  obtain ⟨before, e, after, hsplit, -, he, hs⟩ := s.selected?_of_offered rfl hne ⟨c, hc, hd⟩
  have hmem : e ∈ choices := hsplit ▸ List.mem_append_right _ List.mem_cons_self
  rw [only e hmem he] at hs
  exact ⟨by rw [hs, ← hd]; rfl, only⟩

/-- **A populated select shows the choices, and selects the first with the text that was asked for.** Its entries are
the placeholder and then one for each choice in order. If a text was asked for that is not empty, and some choice has
it, this text is hit and becomes the value, and the entry of the first such choice is selected. Otherwise nothing is
hit, the value is empty, and the placeholder in front is selected, even if there are choices with the empty text. The
rest of the select stays, and what it showed before does not matter, so that populating it once more changes nothing.
The integers that ids can be are those of 64 bits, with a sign or without one; if all ids are integers and no two are
the same, the decimal digits of one select its choice, and no other choice has this text. -/
theorem populate_selects_first (s : Select) (choices : List Choice) (wanted : Option String) :
    let t := s.populate choices wanted
    t.entries = .placeholder :: choices.map (fun c => ⟨c.id.display, c.name⟩) ∧
      (∀ w, wanted = some w → w ≠ "" → (∃ c ∈ choices, c.id.display = w) →
        hit? choices wanted = some w ∧ t.value = w ∧
          ∃ before c after, choices = before ++ c :: after ∧ (∀ b ∈ before, b.id.display ≠ w) ∧ c.id.display = w ∧
            t.selected? = some ⟨w, c.name⟩) ∧
      ((¬∃ w, wanted = some w ∧ w ≠ "" ∧ ∃ c ∈ choices, c.id.display = w) →
        hit? choices wanted = none ∧ t.value = "" ∧ t.selected? = t.entries.head? ∧
          t.selected? = some .placeholder) ∧
      (t.id = s.id ∧ t.disabled = s.disabled ∧ t.dataset = s.dataset) ∧
      (∀ r : Select, (r.populate choices wanted).entries = t.entries ∧ (r.populate choices wanted).value = t.value) ∧
      t.populate choices wanted = t ∧
      (∀ n : Int, (∃ id : ChoiceId, id.integer? = some n) ↔ -2 ^ 63 ≤ n ∧ n < 2 ^ 64) ∧
      ((∀ c ∈ choices, c.id.integer?.isSome) → (choices.map (·.id.integer?)).Nodup →
        ∀ c ∈ choices, ∀ n, c.id.integer? = some n → wanted = some (toString n) →
          hit? choices wanted = some (toString n) ∧ t.selected? = some (.ofChoice c) ∧
            ∀ d ∈ choices, d.id.display = toString n → d = c) := by
  intro t
  refine ⟨rfl, fun w hw hne ho => ?_, fun hno => ?_, ⟨rfl, rfl, rfl⟩, fun _ => ⟨rfl, rfl⟩, rfl,
    fun _ => ChoiceId.exists_integer?_iff, fun hall hnodup c hc n hn hw => ?_⟩
  · have hit := hit?_eq_some_iff.mpr ⟨hw, hne, ho⟩
    exact ⟨hit, congrArg (·.getD "") hit, s.selected?_of_offered hw hne ho⟩
  · have hit : hit? choices wanted = none :=
      Option.eq_none_iff_forall_ne_some.mpr fun w h => hno ⟨w, hit?_eq_some_iff.mp h⟩
    have selected : t.selected? = some .placeholder := by rw [selected?_populate, hit]
    exact ⟨hit, congrArg (·.getD "") hit, selected, selected⟩
  · subst hw
    have hd := ChoiceId.display_of_integer? hn
    have hne : toString n ≠ "" := hd ▸ ChoiceId.display_ne_empty_of_integer? hn
    exact ⟨hit?_eq_some_iff.mpr ⟨rfl, hne, c, hc, hd⟩, s.selected?_of_integer? hall hnodup hc hn⟩

/-- Choices of which some have no text and some have the same. -/
def alike : List Choice :=
  [⟨.text "", "none"⟩, ⟨.text "5", "slug"⟩, ⟨.number 5, "signed"⟩, ⟨.unsigned 5, "unsigned"⟩]

/-- Choices whose ids are the integers at the ends of both forms. -/
def extremes : List Choice :=
  [⟨.number Int64.minValue, "least"⟩, ⟨.number Int64.maxValue, "signed"⟩, ⟨.unsigned 9223372036854775808, "unsigned"⟩,
    ⟨.unsigned 18446744073709551615, "greatest"⟩]

/-- A disabled select without any entry, whose value is from elsewhere. -/
def bare : Select :=
  { new "id_area" with value := "5", disabled := true, entries := [] }

theorem bare_populate_selects :
    (hit? alike (some "5") = some "5" ∧
      ∃ before c after, alike = before ++ c :: after ∧ (∀ b ∈ before, b.id.display ≠ "5") ∧ c.id.display = "5" ∧
        (bare.populate alike (some "5")).selected? = some ⟨"5", c.name⟩) ∧
    (bare.populate alike (some "")).selected? = some .placeholder ∧
    (bare.populate extremes (some "9223372036854775808")).selected? = some ⟨"9223372036854775808", "unsigned"⟩ ∧
    (bare.populate extremes (some "-9223372036854775808")).selected? = some ⟨"-9223372036854775808", "least"⟩ := by
  obtain ⟨-, five, -⟩ := populate_selects_first bare alike (some "5")
  obtain ⟨-, -, empty, -⟩ := populate_selects_first bare alike (some "")
  obtain ⟨-, -, -, -, -, -, -, high⟩ := populate_selects_first bare extremes (some "9223372036854775808")
  obtain ⟨-, -, -, -, -, -, -, low⟩ := populate_selects_first bare extremes (some "-9223372036854775808")
  obtain ⟨hit, -, selected⟩ := five "5" rfl (by decide) ⟨⟨.number 5, "signed"⟩, by decide, by decide⟩
  refine ⟨⟨hit, selected⟩, (empty ?_).2.2.2, ?_, ?_⟩
  · rintro ⟨w, hw, hne, -⟩
    exact hne (Option.some.inj hw).symm
  · exact (high (by decide) (by decide) ⟨.unsigned 9223372036854775808, "unsigned"⟩ (by decide) _ rfl rfl).2.1
  · exact (low (by decide) (by decide) ⟨.number Int64.minValue, "least"⟩ (by decide) _ rfl rfl).2.1

end Select

end LinkedSelect
