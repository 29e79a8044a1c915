import LinkedSelect.Json.Number
import LinkedSelect.Json.Text

/-!
# Walking over a value

A value whose content does not matter is walked over with the brackets open around the current place on a stack.
There are two degrees of care:

* `Care.read` decodes every number, string and key on the way and refuses brackets nested too deep;
* `Care.skip` looks only at the form, so a number may be out of range and a string need not be Unicode.

`value` expects a value, `after` has just passed one and closes brackets or goes on behind a comma. The walk ends
where the stack is empty, and what it leaves is shorter than what it was given (`length_of_value`).
-/

namespace LinkedSelect.Json

/-- How much of a value is looked at. -/
inductive Care
  | read
  | skip
  deriving DecidableEq, Repr

/-- An open bracket or brace. -/
inductive Bracket
  | list
  | object
  deriving DecidableEq, Repr

/-- Brackets and braces that may be open at once when values are read. -/
def maxDepth : Nat := 127

/-- Those that are open around an id: the choice, the list of choices, and what holds the list. -/
def depthOfId : Nat := 3

/-- Another bracket is one too many. -/
def isFull (care : Care) (stack : List Bracket) : Bool :=
  care = .read && maxDepth ≤ depthOfId + stack.length

/-- Takes the octets of a word one by one. -/
def takeWord : List UInt8 → List UInt8 → Except Fault (List UInt8)
  | [], s => .ok s
  | _ :: _, [] => .error (.before .endInValue [])
  | w :: ws, c :: s => if c = w then takeWord ws s else .error (.before .expectedWord s)

/-- The rest of the word that begins with this letter. -/
def wordTail? (c : UInt8) : Option (List UInt8) :=
  if c = 110 then some [117, 108, 108]
  else if c = 116 then some [114, 117, 101]
  else if c = 102 then some [97, 108, 115, 101]
  else none

/-- Passes over a number after its sign. -/
def passNumber (care : Care) (negative : Bool) (s : List UInt8) : Except Fault (List UInt8) :=
  match care with
  | .read => (readNumber negative s).map (·.2)
  | .skip => skipNumber s

/-- Passes over a string after its opening quote. -/
def passText (care : Care) (s : List UInt8) : Except Fault (List UInt8) :=
  match care with
  | .read => (readText s).map (·.2)
  | .skip => skipText s

/-- Passes over a word, a number or a string that begins with the octet `c`. -/
def passScalar (care : Care) (c : UInt8) (r : List UInt8) : Except Fault (List UInt8) :=
  match wordTail? c with
  | some ws => takeWord ws r
  | none =>
    if c = minus then passNumber care true r
    else if isDigit c then passNumber care false (c :: r)
    else if c = quote then passText care r
    else .error (.past .expectedValue (c :: r))

/-- Passes over the colon behind a key. -/
def passColon (s : List UInt8) : Except Fault (List UInt8) :=
  match skipBlanks s with
  | [] => .error (.past .endInObject [])
  | c :: r => if c = colon then .ok r else .error (.past .expectedColon (c :: r))

/-- Passes over a key and its colon; `first` tells whether the brace was opened just before. -/
def passKey (care : Care) (first : Bool) (s : List UInt8) : Except Fault (List UInt8) :=
  match skipBlanks s with
  | [] => .error (.past (if first ∨ care = .skip then .endInObject else .endInValue) [])
  | c :: r =>
    if c = quote then passText care r >>= passColon
    else if c = closeObject ∧ care = .read then .error (.past .trailingComma (c :: r))
    else .error (.past .keyNotText (c :: r))

/-- A closing bracket where an element is expected behind a comma. -/
def closesAfterComma (care : Care) (s : List UInt8) : Bool :=
  care = .read && (skipBlanks s).head? == some closeList

theorem length_of_takeWord {ws s r : List UInt8} (h : takeWord ws s = .ok r) : r.length ≤ s.length := by
  fun_induction takeWord ws s with
  | case1 => cases h; exact Nat.le_refl _
  | case2 => cases h
  | case3 _ _ _ ih =>
    have := ih h
    simp
    omega
  | case4 => cases h

theorem length_of_passNumber {care : Care} {negative : Bool} {s r : List UInt8}
    (h : passNumber care negative s = .ok r) : r.length < s.length := by
  cases care with
  | read =>
    obtain ⟨⟨n, q⟩, h₁, h⟩ := ok_of_map h
    cases h
    exact length_of_readNumber h₁
  | skip => exact length_of_skipNumber h

theorem length_of_passText {care : Care} {s r : List UInt8} (h : passText care s = .ok r) :
    r.length < s.length := by
  cases care with
  | read =>
    obtain ⟨⟨n, q⟩, h₁, h⟩ := ok_of_map h
    cases h
    exact length_of_readText h₁
  | skip => exact length_of_skipText h

theorem length_of_passScalar {care : Care} {c : UInt8} {s r : List UInt8} (h : passScalar care c s = .ok r) :
    r.length ≤ s.length := by
  unfold passScalar at h
  split at h
  · exact length_of_takeWord h
  · split at h
    · exact Nat.le_of_lt (length_of_passNumber h)
    · split at h
      · exact Nat.le_of_lt_succ (length_of_passNumber h)
      · split at h
        · exact Nat.le_of_lt (length_of_passText h)
        · cases h

theorem length_of_passColon {s r : List UInt8} (h : passColon s = .ok r) : r.length < s.length := by
  unfold passColon at h
  split at h
  · cases h
  · next hs =>
    split at h <;> cases h
    exact length_lt_of_skipBlanks hs

theorem length_of_passKey {care : Care} {first : Bool} {s r : List UInt8} (h : passKey care first s = .ok r) :
    r.length < s.length := by
  unfold passKey at h
  split at h
  · cases h
  · next hs =>
    have := length_lt_of_skipBlanks hs
    split at h
    · obtain ⟨q, h₁, h⟩ := ok_of_bind h
      have := length_of_passText h₁
      have := length_of_passColon h
      omega
    · split at h <;> cases h

mutual

/-- Walks over a value and what follows it inside the open brackets. -/
def value (care : Care) (stack : List Bracket) (s : List UInt8) : Except Fault (List UInt8) :=
  match h : skipBlanks s with
  | [] => .error (.past .endInValue [])
  | c :: r =>
    have := length_lt_of_skipBlanks h
    if c = openList then
      if isFull care stack then .error (.past .tooDeep (c :: r))
      else
        match h : skipBlanks r with
        | [] => .error (.past .endInList [])
        | d :: r' =>
          have := length_lt_of_skipBlanks h
          if d = closeList then after care stack r' else value care (.list :: stack) r
    else if c = openObject then
      if isFull care stack then .error (.past .tooDeep (c :: r))
      else
        match h : skipBlanks r with
        | [] => .error (.past .endInObject [])
        | d :: r' =>
          have := length_lt_of_skipBlanks h
          if d = closeObject then after care stack r'
          else
            match h : passKey care true r with
            | .error e => .error e
            | .ok r'' =>
              have := length_of_passKey h
              value care (.object :: stack) r''
    else
      match h : passScalar care c r with
      | .error e => .error e
      | .ok r' =>
        have := length_of_passScalar h
        after care stack r'
termination_by s.length

/-- Walks on behind a value inside the open brackets. -/
def after (care : Care) (stack : List Bracket) (s : List UInt8) : Except Fault (List UInt8) :=
  match stack with
  | [] => .ok s
  | .list :: stack =>
    match h : skipBlanks s with
    | [] => .error (.past .endInList [])
    | c :: r =>
      have := length_lt_of_skipBlanks h
      if c = closeList then after care stack r
      else if c = comma then
        if closesAfterComma care r then .error (.past .trailingComma (skipBlanks r))
        else value care (.list :: stack) r
      else .error (.past .expectedInList (c :: r))
  | .object :: stack =>
    match h : skipBlanks s with
    | [] => .error (.past .endInObject [])
    | c :: r =>
      have := length_lt_of_skipBlanks h
      if c = closeObject then after care stack r
      else if c = comma then
        match h : passKey care false r with
        | .error e => .error e
        | .ok r' =>
          have := length_of_passKey h
          value care (.object :: stack) r'
      else .error (.past .expectedInObject (c :: r))
termination_by s.length

end

/-- What a walk leaves, by the length of the text. -/
theorem length_of_walk (care : Care) (n : Nat) :
    (∀ stack s r, s.length = n → value care stack s = .ok r → r.length < s.length) ∧
      ∀ stack s r, s.length = n → after care stack s = .ok r → r.length ≤ s.length := by
  induction n using Nat.strongRecOn with
  | ind n ih =>
    have hv {stack s r} (hn : s.length < n) (h : value care stack s = .ok r) : r.length < s.length :=
      (ih _ hn).1 stack s r rfl h
    have ha {stack s r} (hn : s.length < n) (h : after care stack s = .ok r) : r.length ≤ s.length :=
      (ih _ hn).2 stack s r rfl h
    constructor
    · intro stack s r hn h
      rw [value] at h
      split at h
      · cases h
      · next hs =>
        have := length_lt_of_skipBlanks hs
        split at h
        · split at h
          · cases h
          · split at h
            · cases h
            · next hs' =>
              have := length_lt_of_skipBlanks hs'
              split at h
              · have := ha (by omega) h
                omega
              · have := hv (by omega) h
                omega
        · split at h
          · split at h
            · cases h
            · split at h
              · cases h
              · next hs' =>
                have := length_lt_of_skipBlanks hs'
                split at h
                · have := ha (by omega) h
                  omega
                · split at h
                  · cases h
                  · next hk =>
                    have := length_of_passKey hk
                    have := hv (by omega) h
                    omega
          · split at h
            · cases h
            · next hp =>
              have := length_of_passScalar hp
              have := ha (by omega) h
              omega
    · intro stack s r hn h
      rw [after.eq_def] at h
      split at h
      · cases h
        exact Nat.le_refl _
      · split at h
        · cases h
        · next hs =>
          have := length_lt_of_skipBlanks hs
          split at h
          · have := ha (by omega) h
            omega
          · split at h
            · split at h
              · cases h
              · have := hv (by omega) h
                omega
            · cases h
      · split at h
        · cases h
        · next hs =>
          have := length_lt_of_skipBlanks hs
          split at h
          · have := ha (by omega) h
            omega
          · split at h
            · split at h
              · cases h
              · next hk =>
                have := length_of_passKey hk
                have := hv (by omega) h
                omega
            · cases h

/-- A walk over a value takes at least one octet. -/
theorem length_of_value {care : Care} {stack : List Bracket} {s r : List UInt8}
    (h : value care stack s = .ok r) : r.length < s.length :=
  (length_of_walk care s.length).1 stack s r rfl h

end LinkedSelect.Json
