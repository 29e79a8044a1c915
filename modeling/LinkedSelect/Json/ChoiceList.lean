import LinkedSelect.Json.Choice

/-!
# Choice lists in JSON

A choice list is an object whose member `results` is a list of choices, or nothing of the kind; or a list with that
list as its only element, or an empty one. `ChoiceList.decode` reads a whole text.
-/

namespace LinkedSelect.Json

/-- Reads choices up to the closing bracket. -/
def readChoices (first : Bool) (s : List UInt8) : Parsed (List Choice) :=
  match h : nextElement first s with
  | .error e => .error e
  | .ok (.none rest) => .ok ([], rest)
  | .ok (.some t) =>
    have := length_of_nextElement h
    match h : readChoice t with
    | .error e => .error e
    | .ok (c, r) =>
      have := length_of_readChoice h
      (readChoices false r).map fun (cs, rest) => (c :: cs, rest)
termination_by s.length

/-- Reads a list of choices. -/
def readResults (s : List UInt8) : Parsed (List Choice) :=
  match skipBlanks s with
  | [] => .error (.past .endInValue [])
  | c :: r => if c = openList then readChoices true r else .error (mismatch .choices (c :: r))

theorem length_of_readChoices {first : Bool} {s r : List UInt8} {cs : List Choice}
    (h : readChoices first s = .ok (cs, r)) : r.length < s.length := by
  fun_induction readChoices first s generalizing cs r with
  | case1 => cases h
  | case2 _ _ _ hn =>
    cases h
    exact length_of_nextElement_none hn
  | case3 => cases h
  | case4 _ _ _ _ _ _ _ _ _ ih =>
    obtain ⟨⟨ds, q⟩, h₁, h⟩ := ok_of_map h
    cases h
    have := ih h₁
    omega

theorem length_of_readResults {s r : List UInt8} {cs : List Choice} (h : readResults s = .ok (cs, r)) :
    r.length < s.length := by
  unfold readResults at h
  split at h
  · cases h
  · next hs =>
    have := length_lt_of_skipBlanks hs
    split at h
    · have := length_of_readChoices h
      omega
    · cases h

/-- Reads the members of a choice list after its brace, or behind a member; `results` is what was read so far. -/
def readListMembers (first : Bool) (results : Option (List Choice)) (s : List UInt8) : Parsed (List Choice) :=
  match h : nextMember first s with
  | .error e => .error e
  | .ok (.none rest) => .ok (results.getD [], rest)
  | .ok (.some key r) =>
    have := length_of_nextMember h
    if key = "results" then
      if results.isSome then .error (.closingObject (.repeatedMember "results") r)
      else
        match h : passColon r with
        | .error e => .error e
        | .ok r =>
          have := length_of_passColon h
          match h : readResults r with
          | .error e => .error e
          | .ok (cs, r) =>
            have := length_of_readResults h
            readListMembers false (some cs) r
    else
      match h : passColon r with
      | .error e => .error e
      | .ok r =>
        have := length_of_passColon h
        match h : value .skip [] r with
        | .error e => .error e
        | .ok r =>
          have := length_of_value h
          readListMembers false results r
termination_by s.length

/-- Reads the elements of a choice list that is written as a list, after its bracket. -/
def readListElements (s : List UInt8) : Parsed (List Choice) :=
  match nextElement true s with
  | .error e => .error e
  | .ok (.none rest) => .ok ([], rest)
  | .ok (.some s) =>
    match readResults s with
    | .error e => .error e
    | .ok (cs, r) => (endOfList r).map fun rest => (cs, rest)

/-- Reads a choice list. -/
def readChoiceList (s : List UInt8) : Parsed (List Choice) :=
  match skipBlanks s with
  | [] => .error (.past .endInValue [])
  | c :: r =>
    if c = openList then readListElements r
    else if c = openObject then readListMembers true none r
    else .error (mismatch .choiceList (c :: r))

/-- Reads a choice list with nothing but blanks behind it. -/
def readWhole (s : List UInt8) : Except Fault (List Choice) :=
  match readChoiceList s with
  | .error e => .error e
  | .ok (cs, rest) =>
    match skipBlanks rest with
    | [] => .ok cs
    | c :: r => .error (.past .trailingCharacters (c :: r))

/-- The choices that a JSON text lists. -/
def ChoiceList.decode (text : List UInt8) : Except Error (List Choice) :=
  (readWhole text).mapError (Fault.locate text)

end LinkedSelect.Json
