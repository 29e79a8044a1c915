import LinkedSelect.Json.Walk
import LinkedSelect.Proofs.Json.Numbers
import LinkedSelect.Proofs.Json.Strings

/-!
# Every value is walked over where it is only skipped

A walk that does not care what a value holds passes over any text of any value, however deep it is nested and whatever
its numbers and strings are, and goes on behind it (`Value.Writes.value_skip`). The proof follows the grammar: what is
left of a list or an object is walked over with its bracket on the stack, and the bracket is taken off at its end.
-/

namespace LinkedSelect.Json

/-! ## The first octet of a value -/

/-- The text of a number is a minus and what follows it, or begins with a digit. -/
theorem Literal.octets_cases (l : Literal) (r : List UInt8) :
    (l.negative = true ∧ l.octets ++ r = minus :: (l.unsigned ++ r)) ∨
      (l.negative = false ∧ l.octets ++ r = l.unsigned ++ r ∧
        ∃ c t, l.unsigned ++ r = c :: t ∧ isDigit c = true) := by
  rw [octets]
  cases l.negative with
  | true => exact .inl ⟨rfl, rfl⟩
  | false =>
    refine .inr ⟨rfl, rfl, ?_⟩
    rw [unsigned, List.append_assoc]
    exact map_digitOctet_append l.whole_ne_nil _

/-- A digit is none of the octets with another meaning. -/
theorem ne_of_isDigit {c d : UInt8} (hc : isDigit c = true) (hd : isDigit d = false) : c ≠ d := by
  rintro rfl
  rw [hc] at hd
  cases hd

theorem isBlank_of_isDigit {c : UInt8} (hc : isDigit c = true) : isBlank c = false := by
  simp only [isBlank, Bool.or_eq_false_iff, beq_eq_false_iff_ne]
  exact ⟨⟨⟨ne_of_isDigit hc (by decide), ne_of_isDigit hc (by decide)⟩, ne_of_isDigit hc (by decide)⟩,
    ne_of_isDigit hc (by decide)⟩

/-- The text of a number begins like no other value. -/
theorem Literal.octets_begin (l : Literal) (r : List UInt8) : ∃ c t, l.octets ++ r = c :: t ∧ isBlank c = false ∧
    c ≠ closeList ∧ c ≠ quote ∧ c ≠ 110 ∧ c ≠ openList ∧ c ≠ openObject := by
  rcases l.octets_cases r with ⟨-, hs⟩ | ⟨-, hs, c, t, hc, hd⟩
  · exact ⟨minus, _, hs, by decide⟩
  · have ne {d : UInt8} (h : isDigit d = false) : c ≠ d := ne_of_isDigit hd h
    exact ⟨c, t, hs.trans hc, isBlank_of_isDigit hd, ne (by decide), ne (by decide), ne (by decide), ne (by decide),
      ne (by decide)⟩

/-- The text of a value begins with an octet that is neither blank nor closes a list. -/
theorem Value.Writes.begins {v : Value} {s r : List UInt8} (h : v.Writes s r) :
    ∃ c t, s = c :: t ∧ isBlank c = false ∧ c ≠ closeList := by
  cases h with
  | @number l =>
    obtain ⟨c, t, hs, hb, hc, -⟩ := l.octets_begin r
    exact ⟨c, t, hs, hb, hc⟩
  | null | yes | no | text | list | object => exact ⟨_, _, rfl, rfl, by decide⟩

/-! ## What a walk does at the first octet -/

section

variable {stack : List Bracket} {c : UInt8} {s r q : List UInt8}

theorem not_isFull_skip : ¬isFull .skip stack = true := by
  simp [isFull]

theorem value_of_emptyList (h : skipBlanks s = openList :: r) (hr : skipBlanks r = closeList :: q) :
    value .skip stack s = after .skip stack q := by
  rw [value]
  split <;> rename_i h' <;> rw [h] at h' <;> cases h'
  rw [if_pos rfl, if_neg not_isFull_skip]
  split <;> rename_i h' <;> rw [hr] at h' <;> cases h'
  exact if_pos rfl

theorem value_of_openList (h : skipBlanks s = openList :: r) (hr : skipBlanks r = c :: q) (hc : c ≠ closeList) :
    value .skip stack s = value .skip (.list :: stack) r := by
  rw [value]
  split <;> rename_i h' <;> rw [h] at h' <;> cases h'
  rw [if_pos rfl, if_neg not_isFull_skip]
  split <;> rename_i h' <;> rw [hr] at h' <;> cases h'
  exact if_neg hc

theorem value_of_emptyObject (h : skipBlanks s = openObject :: r) (hr : skipBlanks r = closeObject :: q) :
    value .skip stack s = after .skip stack q := by
  rw [value]
  split <;> rename_i h' <;> rw [h] at h' <;> cases h'
  rw [if_neg (by decide), if_pos rfl, if_neg not_isFull_skip]
  split <;> rename_i h' <;> rw [hr] at h' <;> cases h'
  exact if_pos rfl

theorem value_of_openObject {t : List UInt8} (h : skipBlanks s = openObject :: r) (hr : skipBlanks r = quote :: t)
    (hk : passKey .skip true r = .ok q) : value .skip stack s = value .skip (.object :: stack) q := by
  rw [value]
  split <;> rename_i h' <;> rw [h] at h' <;> cases h'
  rw [if_neg (by decide), if_pos rfl, if_neg not_isFull_skip]
  split <;> rename_i h' <;> rw [hr] at h' <;> cases h'
  rw [if_neg (by decide)]
  split <;> rename_i h' <;> rw [hk] at h' <;> cases h'
  rfl

theorem value_of_scalar (h : skipBlanks s = c :: r) (hl : c ≠ openList) (ho : c ≠ openObject)
    (hp : passScalar .skip c r = .ok q) : value .skip stack s = after .skip stack q := by
  rw [value]
  split <;> rename_i h' <;> rw [h] at h' <;> cases h'
  rw [if_neg hl, if_neg ho]
  split <;> rename_i h' <;> rw [hp] at h' <;> cases h'
  rfl

theorem after_of_closeList (h : skipBlanks s = closeList :: r) :
    after .skip (.list :: stack) s = after .skip stack r := by
  rw [after]
  split <;> rename_i h' <;> rw [h] at h' <;> cases h'
  exact if_pos rfl

theorem after_of_comma (h : skipBlanks s = comma :: r) :
    after .skip (.list :: stack) s = value .skip (.list :: stack) r := by
  rw [after]
  split <;> rename_i h' <;> rw [h] at h' <;> cases h'
  rw [if_neg (by decide), if_pos rfl]
  rfl

theorem after_of_closeObject (h : skipBlanks s = closeObject :: r) :
    after .skip (.object :: stack) s = after .skip stack r := by
  rw [after]
  split <;> rename_i h' <;> rw [h] at h' <;> cases h'
  exact if_pos rfl

theorem after_of_key (h : skipBlanks s = comma :: r) (hk : passKey .skip false r = .ok q) :
    after .skip (.object :: stack) s = value .skip (.object :: stack) q := by
  rw [after]
  split <;> rename_i h' <;> rw [h] at h' <;> cases h'
  rw [if_neg (by decide), if_pos rfl]
  split <;> rename_i h' <;> rw [hk] at h' <;> cases h'
  rfl

end

/-! ## Walking along the grammar -/

theorem passColon_of_blanks {s r : List UInt8} (h : Blanks s (colon :: r)) : passColon s = .ok r := by
  rw [passColon, skipBlanks_eq h (by decide)]
  exact if_pos rfl

/-- A key is passed over with the colon behind it. -/
theorem passKey_of_spells {first : Bool} {key : List Char} {s s₁ s₂ r : List UInt8} (h : Blanks s (quote :: s₁))
    (hk : Spells key s₁ s₂) (hc : Blanks s₂ (colon :: r)) : passKey .skip first s = .ok r := by
  rw [passKey, skipBlanks_eq h (by decide)]
  simp only [if_true, passText, skipText_of_spells hk, bind, Except.bind]
  exact passColon_of_blanks hc

/-- A literal is passed over. -/
theorem value_of_literal {l : Literal} {stack : List Bracket} {s r : List UInt8} (h : Blanks s (l.octets ++ r))
    (hr : Delimited r) : value .skip stack s = after .skip stack r := by
  have passed := l.skipNumber_append hr
  rcases l.octets_cases r with ⟨-, hs⟩ | ⟨-, hs, c, t, ht, hc⟩
  · rw [hs] at h
    refine value_of_scalar (skipBlanks_eq h (by decide)) (by decide) (by decide) ?_
    exact passed
  · rw [hs, ht] at h
    rw [ht] at passed
    refine value_of_scalar (skipBlanks_eq h (isBlank_of_isDigit hc)) (ne_of_isDigit hc (by decide))
      (ne_of_isDigit hc (by decide)) ?_
    have no_word : wordTail? c = none := by
      rw [wordTail?, if_neg (ne_of_isDigit hc (by decide)), if_neg (ne_of_isDigit hc (by decide)),
        if_neg (ne_of_isDigit hc (by decide))]
    simp only [passScalar, no_word, ne_of_isDigit hc (show isDigit minus = false by decide), hc, if_false, if_true]
    exact passed

mutual

/-- A value is passed over, and the walk goes on behind it. -/
theorem Value.Writes.value_skip : ∀ {v : Value} {t r : List UInt8}, v.Writes t r → ∀ {s : List UInt8}
    (stack : List Bracket), Blanks s t → Delimited r → value .skip stack s = after .skip stack r
  | _, _, _, .null, _, _, hb, _ => value_of_scalar (skipBlanks_eq hb rfl) (by decide) (by decide) rfl
  | _, _, _, .yes, _, _, hb, _ => value_of_scalar (skipBlanks_eq hb rfl) (by decide) (by decide) rfl
  | _, _, _, .no, _, _, hb, _ => value_of_scalar (skipBlanks_eq hb rfl) (by decide) (by decide) rfl
  | _, _, _, .number, _, _, hb, hr => value_of_literal hb hr
  | _, _, _, .text h, _, _, hb, _ =>
    value_of_scalar (skipBlanks_eq hb rfl) (by decide) (by decide) (skipText_of_spells h)
  | _, _, _, .list (.close h), _, _, hb, _ => value_of_emptyList (skipBlanks_eq hb rfl) (skipBlanks_eq h rfl)
  | _, _, _, .list (.first h hv ht), _, stack, hb, _ => by
    obtain ⟨c, u, rfl, hblank, hc⟩ := hv.begins
    rw [value_of_openList (skipBlanks_eq hb rfl) (skipBlanks_eq h hblank) hc, hv.value_skip _ h ht.delimited,
      ht.after_skip stack]
  | _, _, _, .object (.close h), _, _, hb, _ => value_of_emptyObject (skipBlanks_eq hb rfl) (skipBlanks_eq h rfl)
  | _, _, _, .object (.first h hk hc hb' hv ht), _, stack, hb, _ => by
    rw [value_of_openObject (skipBlanks_eq hb rfl) (skipBlanks_eq h rfl) (passKey_of_spells h hk hc),
      hv.value_skip _ hb' ht.delimited, ht.after_skip stack]

/-- What is left of a list is passed over. -/
theorem Elements.after_skip : ∀ {vs : List Value} {s r : List UInt8}, Elements false vs s r →
    ∀ stack : List Bracket, after .skip (.list :: stack) s = after .skip stack r
  | _, _, _, .close h, _ => after_of_closeList (skipBlanks_eq h rfl)
  | _, _, _, .next hc h hv ht, stack => by
    rw [after_of_comma (skipBlanks_eq hc rfl), hv.value_skip _ h ht.delimited, ht.after_skip stack]

/-- What is left of an object is passed over. -/
theorem Members.after_skip : ∀ {ms : List (String × Value)} {s r : List UInt8}, Members false ms s r →
    ∀ stack : List Bracket, after .skip (.object :: stack) s = after .skip stack r
  | _, _, _, .close h, _ => after_of_closeObject (skipBlanks_eq h rfl)
  | _, _, _, .next h₀ h hk hc hb hv ht, stack => by
    rw [after_of_key (skipBlanks_eq h₀ rfl) (passKey_of_spells h hk hc), hv.value_skip _ hb ht.delimited,
      ht.after_skip stack]

end

/-- A member that nobody asks for is passed over. -/
theorem Value.Writes.skip {v : Value} {s t r : List UInt8} (hb : Blanks s t) (h : v.Writes t r) (hr : Delimited r) :
    value .skip [] s = .ok r := by
  rw [h.value_skip [] hb hr, after]

end LinkedSelect.Json
