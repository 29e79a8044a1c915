import LinkedSelect.Json.ChoiceList
import LinkedSelect.Proofs.Json.Listing
import LinkedSelect.Proofs.Json.Skipping

/-!
# Choices are read as they are listed

For every part of a choice list there is one lemma that says when reading a text of some value succeeds, what it gives,
and that exactly the text is used up: from ids (`Value.Writes.readId`) and names over choices
(`Value.Writes.readChoice`) to whole texts (`Value.IsText.readWhole`). Objects go member by member: what was read so far
stands for the members in front (`Members.readMembers`).
-/

namespace LinkedSelect.Json

/-! ## What comes next -/

theorem Elements.nextElement_nil {first : Bool} {s r : List UInt8} (h : Elements first [] s r) :
    nextElement first s = .ok (.none r) := by
  cases h with
  | close h =>
    rw [nextElement, skipBlanks_eq h rfl]
    exact if_pos rfl

/-- The next element begins where it is found. -/
theorem Elements.nextElement_cons {first : Bool} {v : Value} {vs : List Value} {s r : List UInt8}
    (h : Elements first (v :: vs) s r) :
    ∃ t u, nextElement first s = .ok (.some t) ∧ v.Writes t u ∧ Elements false vs u r := by
  cases h with
  | first h hv ht =>
    obtain ⟨c, t, rfl, hb, hc⟩ := hv.begins
    refine ⟨_, _, ?_, hv, ht⟩
    rw [nextElement, skipBlanks_eq h hb]
    simp only [hc, if_false, if_true]
  | next hc h hv ht =>
    obtain ⟨c, t, rfl, hb, hc'⟩ := hv.begins
    refine ⟨_, _, ?_, hv, ht⟩
    rw [nextElement, skipBlanks_eq hc rfl]
    simp only [show comma ≠ closeList by decide, Bool.false_eq_true, if_false, if_true, skipBlanks_eq h hb, hc']

theorem Elements.endOfList_nil {s r : List UInt8} (h : Elements false [] s r) : endOfList s = .ok r := by
  cases h with
  | close h =>
    rw [endOfList, skipBlanks_eq h rfl]
    exact if_pos rfl

/-- Where another element comes the list does not end. -/
theorem Elements.endOfList_cons {v : Value} {vs : List Value} {s r q : List UInt8} (h : Elements false (v :: vs) s r) :
    endOfList s ≠ .ok q := by
  cases h with
  | next hc _ _ _ =>
    rw [endOfList, skipBlanks_eq hc rfl]
    intro h
    cases h

theorem Members.nextMember_nil {first : Bool} {s r : List UInt8} (h : Members first [] s r) :
    nextMember first s = .ok (.none r) := by
  cases h with
  | close h =>
    rw [nextMember, skipBlanks_eq h rfl]
    exact if_pos rfl

/-- The next key is found, and its value behind the colon. -/
theorem Members.nextMember_cons {first : Bool} {key : String} {v : Value} {ms : List (String × Value)}
    {s r : List UInt8} (h : Members first ((key, v) :: ms) s r) :
    ∃ s₁ s₂ t u, nextMember first s = .ok (.some key s₁) ∧ passColon s₁ = .ok s₂ ∧ Blanks s₂ t ∧ v.Writes t u ∧
      Members false ms u r := by
  cases h with
  | first h hk hc hb hv ht =>
    refine ⟨_, _, _, _, ?_, passColon_of_blanks hc, hb, hv, ht⟩
    rw [nextMember, skipBlanks_eq h rfl]
    simp only [show quote ≠ closeObject by decide, if_false, if_true, readText_of_spells hk]
    rfl
  | next h₀ h hk hc hb hv ht =>
    refine ⟨_, _, _, _, ?_, passColon_of_blanks hc, hb, hv, ht⟩
    rw [nextMember, skipBlanks_eq h₀ rfl]
    simp only [show comma ≠ closeObject by decide, Bool.false_eq_true, if_false, if_true, skipBlanks_eq h rfl,
      readText_of_spells hk]
    rfl

/-! ## Ids and names -/

/-- A changed result is one of a result. -/
theorem map_eq_ok {ε α β : Type} {x : Except ε α} {f : α → β} {b : β} :
    x.map f = .ok b ↔ ∃ a, x = .ok a ∧ f a = b := by
  constructor
  · exact ok_of_map
  · rintro ⟨a, rfl, rfl⟩
    rfl

/-- A value that begins like neither a string nor a number is no id. -/
theorem readId_ne {c : UInt8} {s t q : List UInt8} {id : ChoiceId} (h : skipBlanks s = c :: t) (hq : c ≠ quote)
    (hm : c ≠ minus) (hd : isDigit c = false) : readId s ≠ .ok (some id, q) := by
  rw [readId]
  simp only [h, hq, hm, hd, Bool.false_eq_true, if_false]
  intro h
  obtain ⟨_, -, h⟩ := ok_of_map h
  cases h

/-- Reading a literal gives the id that it is, and fails where it is too large. -/
theorem readId_of_literal {l : Literal} {s r q : List UInt8} {id : ChoiceId} (hb : Blanks s (l.octets ++ r))
    (hr : Delimited r) : readId s = .ok (some id, q) ↔ l.Identifies Literal.scaled? id ∧ q = r := by
  have read : ((readNumber l.negative (l.unsigned ++ r)).map fun p => (some p.1.toId, p.2)) = .ok (some id, q) ↔
      l.Identifies Literal.scaled? id ∧ q = r := by
    rw [map_eq_ok, Literal.identifies_iff]
    constructor
    · rintro ⟨⟨n, q'⟩, hn, he⟩
      obtain ⟨hl, rfl⟩ := (l.readNumber_eq_ok hr).mp hn
      cases he
      exact ⟨⟨n, hl, rfl⟩, rfl⟩
    · rintro ⟨⟨n, hn, rfl⟩, rfl⟩
      exact ⟨(n, q), (l.readNumber_eq_ok hr).mpr ⟨hn, rfl⟩, rfl⟩
  rw [← read]
  rcases l.octets_cases r with ⟨hneg, hs⟩ | ⟨hneg, hs, c, t, ht, hc⟩
  · rw [hs] at hb
    rw [readId, hneg]
    simp only [skipBlanks_eq hb rfl, show minus ≠ quote by decide, if_false, if_true]
  · rw [hs, ht] at hb
    rw [readId, hneg, ht]
    simp only [skipBlanks_eq hb (isBlank_of_isDigit hc), ne_of_isDigit hc (show isDigit quote = false by decide),
      ne_of_isDigit hc (show isDigit minus = false by decide), hc, if_false, if_true]

/-- Reading an id gives the id that the value is, and fails where it is none. -/
theorem Value.Writes.readId {v : Value} {s t r q : List UInt8} {id : ChoiceId} (h : v.Writes t r) (hb : Blanks s t)
    (hr : Delimited r) : Json.readId s = .ok (some id, q) ↔ v.Identifies Literal.scaled? id ∧ q = r := by
  cases h with
  | number =>
    rw [readId_of_literal hb hr]
    constructor
    · rintro ⟨h, rfl⟩
      exact ⟨.number h, rfl⟩
    · rintro ⟨⟨h⟩, rfl⟩
      exact ⟨h, rfl⟩
  | text h =>
    rw [Json.readId]
    simp only [skipBlanks_eq hb rfl, if_true, readText_of_spells h]
    constructor
    · rintro ⟨⟩
      exact ⟨.text, rfl⟩
    · rintro ⟨⟨⟩, rfl⟩
      rfl
  | null | yes | no | list | object =>
    refine iff_of_false (readId_ne (skipBlanks_eq hb rfl) (by decide) (by decide) rfl) ?_
    rintro ⟨⟨⟩, -⟩

/-- Reading a name gives the name that the value is, and fails where it is none. -/
theorem Value.Writes.readName {v : Value} {s t r q : List UInt8} {name : String} (h : v.Writes t r)
    (hb : Blanks s t) : Json.readName s = .ok (name, q) ↔ v.Names name ∧ q = r := by
  have other {c : UInt8} {t : List UInt8} (h : skipBlanks s = c :: t) (hq : c ≠ quote) (hn : c ≠ 110) :
      Json.readName s ≠ .ok (name, q) := by
    rw [Json.readName]
    simp only [h, hq, hn, if_false]
    rintro ⟨⟩
  cases h with
  | null =>
    rw [Json.readName]
    simp only [skipBlanks_eq hb rfl, show (110 : UInt8) ≠ quote by decide, if_false, if_true]
    constructor
    · rintro ⟨⟩
      exact ⟨.null, rfl⟩
    · rintro ⟨⟨⟩, rfl⟩
      rfl
  | text h =>
    rw [Json.readName]
    simp only [skipBlanks_eq hb rfl, if_true, readText_of_spells h]
    constructor
    · rintro ⟨⟩
      exact ⟨.text, rfl⟩
    · rintro ⟨⟨⟩, rfl⟩
      rfl
  | @number l =>
    obtain ⟨c, u, hs, hblank, -, hq, hn, -, -⟩ := l.octets_begin r
    rw [hs] at hb
    refine iff_of_false (other (skipBlanks_eq hb hblank) hq hn) ?_
    rintro ⟨⟨⟩, -⟩
  | yes | no | list | object =>
    refine iff_of_false (other (skipBlanks_eq hb rfl) (by decide) (by decide)) ?_
    rintro ⟨⟨⟩, -⟩

/-! ## Choices -/

section

variable {first : Bool} {id? : Option ChoiceId} {name? : Option String} {key : String} {s s₁ s₂ r q : List UInt8}
  {c : Choice}

theorem readMembers_nil (h : nextMember first s = .ok (.none r)) :
    readMembers first id? name? s = .ok (c, q) ↔ id? = some c.id ∧ name?.getD "" = c.name ∧ q = r := by
  rw [readMembers]
  split <;> rename_i h' <;> rw [h] at h' <;> cases h'
  cases id? with
  | none => simp
  | some id =>
    obtain ⟨i, n⟩ := c
    simp [eq_comm, and_assoc]

/-- An id is read if none was read before. -/
theorem readMembers_id (h : nextMember first s = .ok (.some "id" s₁)) (hc : passColon s₁ = .ok s₂) :
    readMembers first id? name? s = .ok (c, q) ↔
      id? = none ∧ ∃ id u, readId s₂ = .ok (some id, u) ∧ readMembers false (some id) name? u = .ok (c, q) := by
  rw [readMembers]
  split <;> rename_i h' <;> rw [h] at h' <;> cases h'
  rw [if_pos rfl]
  cases id? with
  | some id => simp
  | none =>
    rw [if_neg (by decide)]
    split <;> rename_i h' <;> rw [hc] at h' <;> cases h'
    split <;> rename_i h' <;> simp [h']

/-- A name is read if none was read before. -/
theorem readMembers_name (h : nextMember first s = .ok (.some "name" s₁)) (hc : passColon s₁ = .ok s₂) :
    readMembers first id? name? s = .ok (c, q) ↔
      name? = none ∧ ∃ name u, readName s₂ = .ok (name, u) ∧ readMembers false id? (some name) u = .ok (c, q) := by
  rw [readMembers]
  split <;> rename_i h' <;> rw [h] at h' <;> cases h'
  rw [if_neg (by decide), if_pos rfl]
  cases name? with
  | some name => simp
  | none =>
    rw [if_neg (by decide)]
    split <;> rename_i h' <;> rw [hc] at h' <;> cases h'
    split <;> rename_i h' <;> simp [h']

/-- Any other member is passed over. -/
theorem readMembers_other (h : nextMember first s = .ok (.some key s₁)) (hc : passColon s₁ = .ok s₂)
    (hi : key ≠ "id") (hn : key ≠ "name") (hv : value .skip [] s₂ = .ok r) :
    readMembers first id? name? s = readMembers false id? name? r := by
  rw [readMembers]
  split <;> rename_i h' <;> rw [h] at h' <;> cases h'
  rw [if_neg hi, if_neg hn]
  split <;> rename_i h' <;> rw [hc] at h' <;> cases h'
  split <;> rename_i h' <;> rw [hv] at h' <;> cases h'
  rfl

end

theorem valuesOf_cons (name key : String) (v : Value) (ms : List (String × Value)) :
    valuesOf name ((key, v) :: ms) = if key = name then v :: valuesOf name ms else valuesOf name ms := by
  simp only [valuesOf, List.filter_cons, decide_eq_true_eq]
  split <;> rfl

/-- The members of an object give the id and the name that their values are, with what was read before. -/
theorem Members.readMembers {ms : List (String × Value)} : ∀ {first : Bool} {s r q : List UInt8}
    (id? : Option ChoiceId) (name? : Option String) {c : Choice}, Members first ms s r →
    (Json.readMembers first id? name? s = .ok (c, q) ↔
      Remains (Value.Identifies Literal.scaled?) none id? (valuesOf "id" ms) c.id ∧
        Remains Value.Names (some "") name? (valuesOf "name" ms) c.name ∧ q = r) := by
  induction ms with
  | nil =>
    intro first s r q id? name? c h
    rw [readMembers_nil h.nextMember_nil]
    refine and_congr ?_ (and_congr_left' ?_)
    · rw [show valuesOf "id" [] = [] from rfl, remains_nil, Option.or_none]
    · rw [show valuesOf "name" [] = [] from rfl, remains_nil]
      cases name? <;> simp
  | cons m ms ih =>
    obtain ⟨key, v⟩ := m
    intro first s r q id? name? c h
    obtain ⟨s₁, s₂, t, u, hk, hc, hb, hv, hm⟩ := h.nextMember_cons
    rw [valuesOf_cons, valuesOf_cons]
    by_cases hi : key = "id"
    · subst hi
      rw [readMembers_id hk hc, if_pos rfl, if_neg (by decide), remains_cons]
      constructor
      · rintro ⟨rfl, id, u', hid, h⟩
        obtain ⟨hid, rfl⟩ := (hv.readId hb hm.delimited).mp hid
        obtain ⟨hi, hn⟩ := (ih (some id) name? hm).mp h
        exact ⟨⟨rfl, id, hid, hi⟩, hn⟩
      · rintro ⟨⟨rfl, id, hid, hi⟩, hn⟩
        exact ⟨rfl, id, u, (hv.readId hb hm.delimited).mpr ⟨hid, rfl⟩, (ih (some id) name? hm).mpr ⟨hi, hn⟩⟩
    · by_cases hn : key = "name"
      · subst hn
        rw [readMembers_name hk hc, if_neg hi, if_pos rfl, remains_cons]
        constructor
        · rintro ⟨rfl, name, u', hname, h⟩
          obtain ⟨hname, rfl⟩ := (hv.readName hb).mp hname
          obtain ⟨hi, hn, hq⟩ := (ih id? (some name) hm).mp h
          exact ⟨hi, ⟨rfl, name, hname, hn⟩, hq⟩
        · rintro ⟨hi, ⟨rfl, name, hname, hn⟩, hq⟩
          exact ⟨rfl, name, u, (hv.readName hb).mpr ⟨hname, rfl⟩, (ih id? (some name) hm).mpr ⟨hi, hn, hq⟩⟩
      · rw [readMembers_other hk hc hi hn (hv.skip hb hm.delimited), if_neg hi, if_neg hn]
        exact ih id? name? hm

/-- What reading a choice that is written as a list comes to, where the list is not empty. -/
theorem readPair_some {s t q : List UInt8} {c : Choice} (h : nextElement true s = .ok (.some t)) :
    readPair s = .ok (c, q) ↔ ∃ u, readId t = .ok (some c.id, u) ∧
      (nextElement false u = .ok (.none q) ∧ c.name = "" ∨
        ∃ t' u', nextElement false u = .ok (.some t') ∧ readName t' = .ok (c.name, u') ∧ endOfList u' = .ok q) := by
  obtain ⟨i, n⟩ := c
  simp only [readPair, h]
  cases hi : readId t with
  | error e => simp
  | ok p =>
    obtain ⟨_ | id, u⟩ := p
    · simp
    · cases hn : nextElement false u with
      | error e => simp [hn]
      | ok next =>
        cases next with
        | none rest =>
          simp only [hn, Except.ok.injEq, Prod.mk.injEq, Choice.mk.injEq, Option.some.injEq]
          grind
        | some t' =>
          cases hm : readName t' with
          | error e => simp [hn, hm]
          | ok p =>
            obtain ⟨name, u'⟩ := p
            simp only [hn, hm, map_eq_ok, Except.ok.injEq, Prod.mk.injEq, Choice.mk.injEq, Option.some.injEq]
            grind

/-- A choice that is written as a list is read as an id and, if there is one, a name. -/
theorem Elements.readPair {vs : List Value} {s r q : List UInt8} {c : Choice} (h : Elements true vs s r) :
    Json.readPair s = .ok (c, q) ↔ (Value.list vs).Offers Literal.scaled? c ∧ q = r := by
  match vs, h with
  | [], h =>
    refine iff_of_false ?_ ?_
    · simp [Json.readPair, h.nextElement_nil]
    · rintro ⟨⟨⟩, -⟩
  | [v], h =>
    obtain ⟨t, u, hn, hv, ht⟩ := h.nextElement_cons
    rw [readPair_some hn, offers_list, holds_nil]
    simp only [hv.readId .none ht.delimited]
    constructor
    · rintro ⟨_, ⟨hi, rfl⟩, ⟨hend, hname⟩ | ⟨t', u', hnext, -⟩⟩
      · rw [ht.nextElement_nil] at hend
        cases hend
        exact ⟨⟨hi, congrArg some hname.symm⟩, rfl⟩
      · rw [ht.nextElement_nil] at hnext
        cases hnext
    · rintro ⟨⟨hi, hname⟩, rfl⟩
      exact ⟨u, ⟨hi, rfl⟩, .inl ⟨ht.nextElement_nil, (Option.some.inj hname).symm⟩⟩
  | v :: w :: ws, h =>
    obtain ⟨t, u, hn, hv, ht⟩ := h.nextElement_cons
    obtain ⟨t', u', hn', hw, ht'⟩ := ht.nextElement_cons
    have read : Json.readPair s = .ok (c, q) ↔
        v.Identifies Literal.scaled? c.id ∧ w.Names c.name ∧ endOfList u' = .ok q := by
      rw [readPair_some hn]
      simp only [hv.readId .none ht.delimited]
      constructor
      · rintro ⟨_, ⟨hi, rfl⟩, ⟨hend, -⟩ | ⟨_, _, hnext, hname, hend⟩⟩
        · rw [hn'] at hend
          cases hend
        · rw [hn'] at hnext
          cases hnext
          obtain ⟨hname, rfl⟩ := (hw.readName .none).mp hname
          exact ⟨hi, hname, hend⟩
      · rintro ⟨hi, hname, hend⟩
        exact ⟨u, ⟨hi, rfl⟩, .inr ⟨t', u', hn', (hw.readName .none).mpr ⟨hname, rfl⟩, hend⟩⟩
    rw [read, offers_list]
    match ws, ht' with
    | [], ht' => rw [holds_singleton, ht'.endOfList_nil, Except.ok.injEq, eq_comm (a := r), and_assoc]
    | x :: xs, ht' => simp [ht'.endOfList_cons, not_holds_cons_cons]

/-- Reading a choice gives the choice that the value is, and fails where it is none. -/
theorem Value.Writes.readChoice {v : Value} {t r q : List UInt8} {c : Choice} (h : v.Writes t r) :
    Json.readChoice t = .ok (c, q) ↔ v.Offers Literal.scaled? c ∧ q = r := by
  have other {b : UInt8} {u : List UInt8} (ht : skipBlanks t = b :: u) (hl : b ≠ openList) (ho : b ≠ openObject) :
      Json.readChoice t ≠ .ok (c, q) := by
    rw [Json.readChoice]
    simp only [ht, hl, ho, if_false]
    rintro ⟨⟩
  cases h with
  | list h =>
    rw [Json.readChoice, skipBlanks_cons rfl]
    exact h.readPair
  | object h =>
    rw [Json.readChoice, skipBlanks_cons rfl]
    simp only [show openObject ≠ openList by decide, if_false, if_true, h.readMembers none none]
    constructor
    · rintro ⟨hi, hn, rfl⟩
      exact ⟨.object hi hn, rfl⟩
    · rintro ⟨⟨hi, hn⟩, rfl⟩
      exact ⟨hi, hn, rfl⟩
  | @number l =>
    obtain ⟨b, u, hs, hblank, -, -, -, hl, ho⟩ := l.octets_begin r
    rw [hs] at other ⊢
    refine iff_of_false (other (skipBlanks_cons hblank u) hl ho) ?_
    rintro ⟨⟨⟩, -⟩
  | null | yes | no | text =>
    refine iff_of_false (other (skipBlanks_cons rfl _) (by decide) (by decide)) ?_
    rintro ⟨⟨⟩, -⟩

/-! ## Lists of choices -/

theorem readChoices_some {first : Bool} {s t q : List UInt8} {cs : List Choice}
    (h : nextElement first s = .ok (.some t)) :
    readChoices first s = .ok (cs, q) ↔
      ∃ c u ds, readChoice t = .ok (c, u) ∧ readChoices false u = .ok (ds, q) ∧ c :: ds = cs := by
  rw [readChoices]
  split <;> rename_i h' <;> rw [h] at h' <;> cases h'
  split <;> rename_i h'
  · simp [h']
  · simp [h', map_eq_ok, and_comm]

/-- The elements of a list are read as one choice each, in their order. -/
theorem Elements.readChoices {vs : List Value} : ∀ {first : Bool} {s r q : List UInt8} {cs : List Choice},
    Elements first vs s r →
    (Json.readChoices first s = .ok (cs, q) ↔ List.Forall₂ (Value.Offers Literal.scaled?) vs cs ∧ q = r) := by
  induction vs with
  | nil =>
    intro first s r q cs h
    rw [Json.readChoices]
    split <;> rename_i h' <;> rw [h.nextElement_nil] at h' <;> cases h'
    simp [eq_comm]
  | cons v vs ih =>
    intro first s r q cs h
    obtain ⟨t, u, hn, hv, ht⟩ := h.nextElement_cons
    rw [readChoices_some hn]
    constructor
    · rintro ⟨c, u', ds, hc, hds, rfl⟩
      obtain ⟨hc, rfl⟩ := hv.readChoice.mp hc
      obtain ⟨hds, rfl⟩ := (ih ht).mp hds
      exact ⟨.cons hc hds, rfl⟩
    · rintro ⟨hc | ⟨hc, hds⟩, rfl⟩
      exact ⟨_, u, _, hv.readChoice.mpr ⟨hc, rfl⟩, (ih ht).mpr ⟨hds, rfl⟩, rfl⟩

/-- Reading the choices of a list gives the choices that are its elements, and fails where one is none. -/
theorem Value.Writes.readResults {v : Value} {s t r q : List UInt8} {cs : List Choice} (h : v.Writes t r)
    (hb : Blanks s t) : Json.readResults s = .ok (cs, q) ↔ v.Results Literal.scaled? cs ∧ q = r := by
  have other {b : UInt8} {u : List UInt8} (hs : skipBlanks s = b :: u) (hl : b ≠ openList) :
      Json.readResults s ≠ .ok (cs, q) := by
    rw [Json.readResults]
    simp only [hs, hl, if_false]
    rintro ⟨⟩
  cases h with
  | list h =>
    rw [Json.readResults]
    simp only [skipBlanks_eq hb rfl, if_true, h.readChoices]
    constructor
    · rintro ⟨hs, rfl⟩
      exact ⟨.list hs, rfl⟩
    · rintro ⟨⟨hs⟩, rfl⟩
      exact ⟨hs, rfl⟩
  | @number l =>
    obtain ⟨b, u, hs, hblank, -, -, -, hl, -⟩ := l.octets_begin r
    rw [hs] at hb
    refine iff_of_false (other (skipBlanks_eq hb hblank) hl) ?_
    rintro ⟨⟨⟩, -⟩
  | null | yes | no | text | object =>
    refine iff_of_false (other (skipBlanks_eq hb rfl) (by decide)) ?_
    rintro ⟨⟨⟩, -⟩

/-! ## Choice lists -/

section

variable {first : Bool} {results? : Option (List Choice)} {key : String} {s s₁ s₂ r q : List UInt8}
  {cs : List Choice}

theorem readListMembers_nil (h : nextMember first s = .ok (.none r)) :
    readListMembers first results? s = .ok (cs, q) ↔ results?.getD [] = cs ∧ q = r := by
  rw [readListMembers]
  split <;> rename_i h' <;> rw [h] at h' <;> cases h'
  simp [eq_comm]

/-- The choices are read if none were read before. -/
theorem readListMembers_results (h : nextMember first s = .ok (.some "results" s₁)) (hc : passColon s₁ = .ok s₂) :
    readListMembers first results? s = .ok (cs, q) ↔ results? = none ∧ ∃ ds u, readResults s₂ = .ok (ds, u) ∧
      readListMembers false (some ds) u = .ok (cs, q) := by
  rw [readListMembers]
  split <;> rename_i h' <;> rw [h] at h' <;> cases h'
  rw [if_pos rfl]
  cases results? with
  | some ds => simp
  | none =>
    rw [if_neg (by decide)]
    split <;> rename_i h' <;> rw [hc] at h' <;> cases h'
    split <;> rename_i h' <;> simp [h']

/-- Any other member is passed over. -/
theorem readListMembers_other (h : nextMember first s = .ok (.some key s₁)) (hc : passColon s₁ = .ok s₂)
    (hk : key ≠ "results") (hv : value .skip [] s₂ = .ok r) :
    readListMembers first results? s = readListMembers false results? r := by
  rw [readListMembers]
  split <;> rename_i h' <;> rw [h] at h' <;> cases h'
  rw [if_neg hk]
  split <;> rename_i h' <;> rw [hc] at h' <;> cases h'
  split <;> rename_i h' <;> rw [hv] at h' <;> cases h'
  rfl

end

/-- The members of an object give the choices of the one that holds them, with what was read before. -/
theorem Members.readListMembers {ms : List (String × Value)} : ∀ {first : Bool} {s r q : List UInt8}
    (results? : Option (List Choice)) {cs : List Choice}, Members first ms s r →
    (Json.readListMembers first results? s = .ok (cs, q) ↔
      Remains (Value.Results Literal.scaled?) (some []) results? (valuesOf "results" ms) cs ∧ q = r) := by
  induction ms with
  | nil =>
    intro first s r q results? cs h
    rw [readListMembers_nil h.nextMember_nil, show valuesOf "results" [] = [] from rfl, remains_nil]
    cases results? <;> simp
  | cons m ms ih =>
    obtain ⟨key, v⟩ := m
    intro first s r q results? cs h
    obtain ⟨s₁, s₂, t, u, hk, hc, hb, hv, hm⟩ := h.nextMember_cons
    rw [valuesOf_cons]
    by_cases hkey : key = "results"
    · subst hkey
      rw [readListMembers_results hk hc, if_pos rfl, remains_cons]
      constructor
      · rintro ⟨rfl, ds, u', hds, h⟩
        obtain ⟨hds, rfl⟩ := (hv.readResults hb).mp hds
        obtain ⟨hr, hq⟩ := (ih (some ds) hm).mp h
        exact ⟨⟨rfl, ds, hds, hr⟩, hq⟩
      · rintro ⟨⟨rfl, ds, hds, hr⟩, hq⟩
        exact ⟨rfl, ds, u, (hv.readResults hb).mpr ⟨hds, rfl⟩, (ih (some ds) hm).mpr ⟨hr, hq⟩⟩
    · rw [readListMembers_other hk hc hkey (hv.skip hb hm.delimited), if_neg hkey]
      exact ih results? hm

theorem readListElements_some {s t q : List UInt8} {cs : List Choice} (h : nextElement true s = .ok (.some t)) :
    readListElements s = .ok (cs, q) ↔ ∃ u, readResults t = .ok (cs, u) ∧ endOfList u = .ok q := by
  simp only [readListElements, h]
  cases hr : readResults t with
  | error e => simp
  | ok p =>
    obtain ⟨ds, u⟩ := p
    simp [map_eq_ok, and_comm]

/-- A choice list that is written as a list is read as its only element. -/
theorem Elements.readListElements {vs : List Value} {s r q : List UInt8} {cs : List Choice}
    (h : Elements true vs s r) :
    Json.readListElements s = .ok (cs, q) ↔ Holds (Value.Results Literal.scaled?) (some []) vs cs ∧ q = r := by
  match vs, h with
  | [], h => simp [Json.readListElements, h.nextElement_nil, holds_nil, eq_comm]
  | v :: vs, h =>
    obtain ⟨t, u, hn, hv, ht⟩ := h.nextElement_cons
    have read : Json.readListElements s = .ok (cs, q) ↔ v.Results Literal.scaled? cs ∧ endOfList u = .ok q := by
      rw [readListElements_some hn]
      constructor
      · rintro ⟨u', hr, he⟩
        obtain ⟨hr, rfl⟩ := (hv.readResults .none).mp hr
        exact ⟨hr, he⟩
      · rintro ⟨hr, he⟩
        exact ⟨u, (hv.readResults .none).mpr ⟨hr, rfl⟩, he⟩
    rw [read]
    match vs, ht with
    | [], ht => rw [holds_singleton, ht.endOfList_nil, Except.ok.injEq, eq_comm (a := r)]
    | w :: ws, ht => simp [ht.endOfList_cons, not_holds_cons_cons]

/-- Reading a choice list gives the choices that the value lists, and fails where it lists none. -/
theorem Value.Writes.readChoiceList {v : Value} {s t r q : List UInt8} {cs : List Choice} (h : v.Writes t r)
    (hb : Blanks s t) : Json.readChoiceList s = .ok (cs, q) ↔ v.Lists Literal.scaled? cs ∧ q = r := by
  have other {b : UInt8} {u : List UInt8} (hs : skipBlanks s = b :: u) (hl : b ≠ openList) (ho : b ≠ openObject) :
      Json.readChoiceList s ≠ .ok (cs, q) := by
    rw [Json.readChoiceList]
    simp only [hs, hl, ho, if_false]
    rintro ⟨⟩
  cases h with
  | list h =>
    rw [Json.readChoiceList]
    simp only [skipBlanks_eq hb rfl, if_true, h.readListElements]
    constructor
    · rintro ⟨hl, rfl⟩
      exact ⟨.list hl, rfl⟩
    · rintro ⟨_ | hl, rfl⟩
      exact ⟨hl, rfl⟩
  | object h =>
    rw [Json.readChoiceList]
    simp only [skipBlanks_eq hb rfl, show openObject ≠ openList by decide, if_false, if_true, h.readListMembers none]
    constructor
    · rintro ⟨hl, rfl⟩
      exact ⟨.object hl, rfl⟩
    · rintro ⟨hl | _, rfl⟩
      exact ⟨hl, rfl⟩
  | @number l =>
    obtain ⟨b, u, hs, hblank, -, -, -, hl, ho⟩ := l.octets_begin r
    rw [hs] at hb
    refine iff_of_false (other (skipBlanks_eq hb hblank) hl ho) ?_
    rintro ⟨⟨⟩, -⟩
  | null | yes | no | text =>
    refine iff_of_false (other (skipBlanks_eq hb rfl) (by decide) (by decide)) ?_
    rintro ⟨⟨⟩, -⟩

/-- Reading a whole text of a value gives the choices that the value lists, and fails where it lists none. -/
theorem Value.IsText.readWhole {v : Value} {s : List UInt8} (h : v.IsText s) (cs : List Choice) :
    Json.readWhole s = .ok cs ↔ v.Lists Literal.scaled? cs := by
  obtain ⟨t, u, hb, hv, hu⟩ := h
  have ends : skipBlanks u = [] := skipBlanks_of_blanks hu
  have read {q : List UInt8} : Json.readChoiceList s = .ok (cs, q) ↔ v.Lists Literal.scaled? cs ∧ q = u :=
    hv.readChoiceList hb
  rw [Json.readWhole]
  constructor
  · intro h
    split at h
    · cases h
    · next ds rest hr =>
      split at h
      · cases h
        exact (read.mp hr).1
      · cases h
  · intro h
    rw [read.mpr ⟨h, rfl⟩]
    simp only [ends]

end LinkedSelect.Json
