import LinkedSelect.Json.Text

/-!
# Elements and members

What follows inside an open list or object: an element or a member, or the end.

* `nextElement` and `nextMember` look for the next one; what they leave is never longer than what they were given;
* a fault that concerns a list or an object as a whole is placed where its closing bracket would be
  (`Fault.closingList`, `Fault.closingObject`): behind that bracket if it comes next.
-/

namespace LinkedSelect.Json

/-- A fault of an object, placed behind its brace if that comes next. -/
def Fault.closingObject (cause : Cause) (s : List UInt8) : Fault :=
  match skipBlanks s with
  | [] => .before cause []
  | c :: r => .before cause (if c = closeObject then r else c :: r)

/-- A fault of a list, placed behind its bracket or the next comma with its blanks if one of them comes next. -/
def Fault.closingList (cause : Cause) (s : List UInt8) : Fault :=
  match skipBlanks s with
  | [] => .before cause []
  | c :: r => .before cause (if c = closeList then r else if c = comma then skipBlanks r else c :: r)

/-- What follows in a list: its end with the rest behind the bracket, or an element that begins here. -/
inductive NextElement
  | none (rest : List UInt8)
  | some (start : List UInt8)

/-- Looks for the next element; `first` tells whether the bracket was opened just before. -/
def nextElement (first : Bool) (s : List UInt8) : Except Fault NextElement :=
  match skipBlanks s with
  | [] => .error (.past .endInList [])
  | c :: r =>
    if c = closeList then .ok (.none r)
    else if first then .ok (.some (c :: r))
    else if c = comma then
      match skipBlanks r with
      | [] => .error (.past .endInValue [])
      | d :: r => if d = closeList then .error (.past .trailingComma (d :: r)) else .ok (.some (d :: r))
    else .error (.past .expectedInList (c :: r))

/-- The end of a list that may hold no further element. -/
def endOfList (s : List UInt8) : Except Fault (List UInt8) :=
  match skipBlanks s with
  | [] => .error (.past .endInList [])
  | c :: r =>
    if c = closeList then .ok r
    else if c = comma then
      let r := skipBlanks r
      .error (.past (if r.head? = some closeList then .trailingComma else .trailingCharacters) r)
    else .error (.past .trailingCharacters (c :: r))

/-- What follows in an object: its end with the rest behind the brace, or a key with the rest behind it. -/
inductive NextMember
  | none (rest : List UInt8)
  | some (key : String) (rest : List UInt8)

/-- Looks for the next key; `first` tells whether the brace was opened just before. -/
def nextMember (first : Bool) (s : List UInt8) : Except Fault NextMember :=
  match skipBlanks s with
  | [] => .error (.past .endInObject [])
  | c :: r =>
    if c = closeObject then .ok (.none r)
    else if first then
      if c = quote then (readText r).map fun (key, r) => .some key r else .error (.past .keyNotText (c :: r))
    else if c = comma then
      match skipBlanks r with
      | [] => .error (.past .endInValue [])
      | d :: r =>
        if d = quote then (readText r).map fun (key, r) => .some key r
        else if d = closeObject then .error (.past .trailingComma (d :: r))
        else .error (.past .keyNotText (d :: r))
    else .error (.past .expectedInObject (c :: r))

theorem length_of_nextElement {first : Bool} {s t : List UInt8} (h : nextElement first s = .ok (.some t)) :
    t.length ≤ s.length := by
  unfold nextElement at h
  split at h
  · cases h
  · next hs =>
    have := length_lt_of_skipBlanks hs
    split at h
    · cases h
    · split at h
      · cases h
        simp
        omega
      · split at h
        · split at h
          · cases h
          · next hs' =>
            have := length_lt_of_skipBlanks hs'
            split at h <;> cases h
            simp
            omega
        · cases h

theorem length_of_nextElement_none {first : Bool} {s t : List UInt8} (h : nextElement first s = .ok (.none t)) :
    t.length < s.length := by
  unfold nextElement at h
  split at h
  · cases h
  · next hs =>
    have := length_lt_of_skipBlanks hs
    split at h
    · cases h
      exact this
    · split at h
      · cases h
      · split at h
        · split at h
          · cases h
          · split at h <;> cases h
        · cases h

theorem length_of_nextMember {first : Bool} {s t : List UInt8} {key : String}
    (h : nextMember first s = .ok (.some key t)) : t.length < s.length := by
  unfold nextMember at h
  split at h
  · cases h
  · next hs =>
    have := length_lt_of_skipBlanks hs
    split at h
    · cases h
    · split at h
      · split at h
        · obtain ⟨⟨k, q⟩, h₁, h⟩ := ok_of_map h
          cases h
          have := length_of_readText h₁
          omega
        · cases h
      · split at h
        · split at h
          · cases h
          · next hs' =>
            have := length_lt_of_skipBlanks hs'
            split at h
            · obtain ⟨⟨k, q⟩, h₁, h⟩ := ok_of_map h
              cases h
              have := length_of_readText h₁
              omega
            · split at h <;> cases h
        · cases h

theorem length_of_nextMember_none {first : Bool} {s t : List UInt8} (h : nextMember first s = .ok (.none t)) :
    t.length < s.length := by
  unfold nextMember at h
  split at h
  · cases h
  · next hs =>
    have := length_lt_of_skipBlanks hs
    split at h
    · cases h
      exact this
    · split at h
      · split at h
        · obtain ⟨⟨k, q⟩, _, h⟩ := ok_of_map h
          cases h
        · cases h
      · split at h
        · split at h
          · cases h
          · split at h
            · obtain ⟨⟨k, q⟩, _, h⟩ := ok_of_map h
              cases h
            · split at h <;> cases h
        · cases h

theorem length_of_endOfList {s r : List UInt8} (h : endOfList s = .ok r) : r.length < s.length := by
  unfold endOfList at h
  split at h
  · cases h
  · next hs =>
    split at h
    · cases h
      exact length_lt_of_skipBlanks hs
    · split at h <;> cases h

end LinkedSelect.Json
