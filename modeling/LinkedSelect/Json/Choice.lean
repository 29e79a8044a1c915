import LinkedSelect.Choice
import LinkedSelect.Json.Member
import LinkedSelect.Json.Walk

/-!
# Choices in JSON

A choice is an object with an `id` and perhaps a `name`, or a list of one or both. Other members are walked over
without care. An id is a number or a string; a name is a string, or null for the empty text.
-/

namespace LinkedSelect.Json

/-- A number as a message names it. -/
def Number.found : Number → Found
  | .integer n => .integer n
  | .real x => .real x

/-- The fault of a value that is not what this place wants. -/
def mismatch (wanted : Wanted) (s : List UInt8) : Fault :=
  let named (x : Except Fault (Found × List UInt8)) : Fault :=
    match x with
    | .ok (found, rest) => .before (.invalidType found wanted) rest
    | .error e => e
  match s with
  | [] => .past .expectedValue []
  | c :: r =>
    if c = openList then named (.ok (.list, s))
    else if c = openObject then named (.ok (.object, s))
    else if c = quote then named ((readText r).map fun (t, r) => (.text t, r))
    else if c = minus then named ((readNumber true r).map fun (n, r) => (n.found, r))
    else if isDigit c then named ((readNumber false s).map fun (n, r) => (n.found, r))
    else
      match wordTail? c with
      | none => .past .expectedValue s
      | some ws =>
        let found : Found := if c = 110 then .null else .boolean (c = 116)
        named ((takeWord ws r).map fun r => (found, r))

/-- The id that a number stands for: signed where it fits. -/
def Number.toId : Number → ChoiceId
  | .integer n => if n < signedBound then .number (Int64.ofInt n) else .unsigned (UInt64.ofNat n.toNat)
  | .real x => .float x

/-- Reads the value of an id; a value that is neither a number nor a string gives none. -/
def readId (s : List UInt8) : Except Fault (Option ChoiceId × List UInt8) :=
  let other := (value .read [] s).map fun r => (none, r)
  match skipBlanks s with
  | [] => other
  | c :: r =>
    if c = quote then (readText r).map fun (t, r) => (some (.text t), r)
    else if c = minus then (readNumber true r).map fun (n, r) => (some n.toId, r)
    else if isDigit c then (readNumber false (c :: r)).map fun (n, r) => (some n.toId, r)
    else other

/-- Reads the value of a name: a string, or null for the empty text. -/
def readName (s : List UInt8) : Except Fault (String × List UInt8) :=
  match skipBlanks s with
  | [] => .error (.past .endInValue [])
  | c :: r =>
    if c = quote then readText r
    else if c = 110 then (takeWord [117, 108, 108] r).map fun r => ("", r)
    else .error (mismatch .name (c :: r))

theorem length_of_readId {s r : List UInt8} {id : Option ChoiceId} (h : readId s = .ok (id, r)) :
    r.length < s.length := by
  have other {q : Option ChoiceId × List UInt8} (h : (value .read [] s).map (fun r => (none, r)) = .ok q) :
      q.2.length < s.length := by
    obtain ⟨t, h₁, h⟩ := ok_of_map h
    cases h
    exact length_of_value h₁
  unfold readId at h
  dsimp only at h
  split at h
  · exact other h
  · next hs =>
    have := length_lt_of_skipBlanks hs
    split at h
    · obtain ⟨⟨t, q⟩, h₁, h⟩ := ok_of_map h
      dsimp only at h
      cases h
      have := length_of_readText h₁
      omega
    · split at h
      · obtain ⟨⟨t, q⟩, h₁, h⟩ := ok_of_map h
        dsimp only at h
        cases h
        have := length_of_readNumber h₁
        omega
      · split at h
        · obtain ⟨⟨t, q⟩, h₁, h⟩ := ok_of_map h
          dsimp only at h
          cases h
          have := length_of_readNumber h₁
          simp at this
          omega
        · exact other h

theorem length_of_readName {s r : List UInt8} {t : String} (h : readName s = .ok (t, r)) :
    r.length < s.length := by
  unfold readName at h
  split at h
  · cases h
  · next hs =>
    have := length_lt_of_skipBlanks hs
    split at h
    · have := length_of_readText h
      omega
    · split at h
      · obtain ⟨q, h₁, h⟩ := ok_of_map h
        cases h
        have := length_of_takeWord h₁
        omega
      · cases h

/-- Reads the members of a choice after its brace, or behind a member; `id` and `name` are those read so far. -/
def readMembers (first : Bool) (id : Option ChoiceId) (name : Option String) (s : List UInt8) : Parsed Choice :=
  match h : nextMember first s with
  | .error e => .error e
  | .ok (.none rest) =>
    match id with
    | none => .error (.before (.missingMember "id") rest)
    | some id => .ok (⟨id, name.getD ""⟩, rest)
  | .ok (.some key r) =>
    have := length_of_nextMember h
    if key = "id" then
      if id.isSome then .error (.closingObject (.repeatedMember "id") r)
      else
        match h : passColon r with
        | .error e => .error e
        | .ok r =>
          have := length_of_passColon h
          match h : readId r with
          | .error e => .error e
          | .ok (none, r) => .error (.closingObject .noId r)
          | .ok (some id, r) =>
            have := length_of_readId h
            readMembers false (some id) name r
    else if key = "name" then
      if name.isSome then .error (.closingObject (.repeatedMember "name") r)
      else
        match h : passColon r with
        | .error e => .error e
        | .ok r =>
          have := length_of_passColon h
          match h : readName r with
          | .error e => .error e
          | .ok (name, r) =>
            have := length_of_readName h
            readMembers false id (some name) r
    else
      match h : passColon r with
      | .error e => .error e
      | .ok r =>
        have := length_of_passColon h
        match h : value .skip [] r with
        | .error e => .error e
        | .ok r =>
          have := length_of_value h
          readMembers false id name r
termination_by s.length

/-- Reads the elements of a choice that is written as a list, after its bracket. -/
def readPair (s : List UInt8) : Parsed Choice :=
  match nextElement true s with
  | .error e => .error e
  | .ok (.none rest) => .error (.before .emptyChoice rest)
  | .ok (.some s) =>
    match readId s with
    | .error e => .error e
    | .ok (none, r) => .error (.closingList .noId r)
    | .ok (some id, r) =>
      match nextElement false r with
      | .error e => .error e
      | .ok (.none rest) => .ok (⟨id, ""⟩, rest)
      | .ok (.some s) =>
        match readName s with
        | .error e => .error e
        | .ok (name, r) => (endOfList r).map fun rest => (⟨id, name⟩, rest)

/-- Reads a choice. -/
def readChoice (s : List UInt8) : Parsed Choice :=
  match skipBlanks s with
  | [] => .error (.past .endInValue [])
  | c :: r =>
    if c = openList then readPair r
    else if c = openObject then readMembers true none none r
    else .error (mismatch .choice (c :: r))

theorem length_of_readMembers {first : Bool} {id : Option ChoiceId} {name : Option String} {s r : List UInt8}
    {c : Choice} (h : readMembers first id name s = .ok (c, r)) : r.length < s.length := by
  fun_induction readMembers first id name s generalizing c r
  all_goals first
    | cases h; done
    | (cases h; exact length_of_nextMember_none ‹_›)
    | (rename_i ih; have := ih h; omega)

theorem length_of_readPair {s r : List UInt8} {c : Choice} (h : readPair s = .ok (c, r)) :
    r.length < s.length := by
  unfold readPair at h
  split at h
  · cases h
  · cases h
  · next hs =>
    have := length_of_nextElement hs
    split at h
    · cases h
    · cases h
    · next hi =>
      have := length_of_readId hi
      split at h
      · cases h
      · next hn =>
        cases h
        have := length_of_nextElement_none hn
        omega
      · next hn =>
        have := length_of_nextElement hn
        split at h
        · cases h
        · next hm =>
          have := length_of_readName hm
          obtain ⟨q, h₁, h⟩ := ok_of_map h
          cases h
          have := length_of_endOfList h₁
          omega

theorem length_of_readChoice {s r : List UInt8} {c : Choice} (h : readChoice s = .ok (c, r)) :
    r.length < s.length := by
  unfold readChoice at h
  split at h
  · cases h
  · next hs =>
    have := length_lt_of_skipBlanks hs
    split at h
    · have := length_of_readPair h
      omega
    · split at h
      · have := length_of_readMembers h
        omega
      · cases h

end LinkedSelect.Json
