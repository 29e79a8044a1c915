import LinkedSelect.Json.Fault
import LinkedSelect.Json.Octet
import LinkedSelect.Text.Hex
import LinkedSelect.Text.Utf8

/-!
# JSON strings

* `readText` reads what follows the opening quote: escapes are replaced, a pair of surrogate escapes by one character,
  and the octets that result must be UTF-8;
* `skipText` passes over a string and looks only for its end and for the form of its escapes.
-/

namespace LinkedSelect.Json

/-- The octet that a one-letter escape stands for. -/
def shortEscape? (c : UInt8) : Option UInt8 :=
  if c = quote ∨ c = backslash ∨ c = 47 then some c
  else if c = 98 then some 8
  else if c = 102 then some 12
  else if c = 110 then some 10
  else if c = 114 then some 13
  else if c = 116 then some 9
  else none

/-- The letter of an escape by number. -/
def isUnicodeMark (c : UInt8) : Bool :=
  c == 117

/-- Four hexadecimal digits at the front, and the rest. -/
def readHex4 (s : List UInt8) : Parsed Nat :=
  match s with
  | a :: b :: c :: d :: r =>
    match Hex.value? a.toNat, Hex.value? b.toNat, Hex.value? c.toNat, Hex.value? d.toNat with
    | some a, some b, some c, some d => .ok (((a * 16 + b) * 16 + c) * 16 + d, r)
    | _, _, _, _ => .error (.before .invalidEscape r)
  | _ => .error (.before .endInText [])

/-- The first half of a pair. -/
def isHighSurrogate (n : Nat) : Bool :=
  0xD800 ≤ n && n ≤ 0xDBFF

/-- The second half of a pair. -/
def isLowSurrogate (n : Nat) : Bool :=
  0xDC00 ≤ n && n ≤ 0xDFFF

/-- Takes the octet `c`, which continues a pair. -/
def expectPair (holds : UInt8 → Bool) (s : List UInt8) : Except Fault (List UInt8) :=
  match s with
  | [] => .error (.before .endInText [])
  | c :: r => if holds c then .ok r else .error (.before .unfinishedPair r)

/-- Reads the second half of a pair as a whole escape. -/
def readLowSurrogate (s : List UInt8) : Except Fault (Nat × List UInt8) := do
  let s ← expectPair (· == backslash) s
  let s ← expectPair isUnicodeMark s
  let (n, r) ← readHex4 s
  if isLowSurrogate n then return (n, r) else throw (.before .loneSurrogate r)

/-- Reads an escape by number after its letter; two escapes make one character above `0xFFFF`. -/
def readUnicodeEscape (s : List UInt8) : Except Fault (Char × List UInt8) := do
  let (n, r) ← readHex4 s
  if isLowSurrogate n then throw (.before .loneSurrogate r)
  else if isHighSurrogate n then
    let (m, r) ← readLowSurrogate r
    return (Char.ofNat (0x10000 + (n - 0xD800) * 0x400 + (m - 0xDC00)), r)
  else return (Char.ofNat n, r)

/-- Reads an escape after its backslash. -/
def readEscape (s : List UInt8) : Parsed (List UInt8) :=
  match s with
  | [] => .error (.before .endInText [])
  | c :: r =>
    if isUnicodeMark c then (readUnicodeEscape r).map fun (x, r) => (String.utf8EncodeChar x, r)
    else
      match shortEscape? c with
      | some b => .ok ([b], r)
      | none => .error (.before .invalidEscape r)

theorem length_of_readHex4 {s r : List UInt8} {n : Nat} (h : readHex4 s = .ok (n, r)) : r.length < s.length := by
  unfold readHex4 at h
  split at h
  · split at h
    · cases h
      simp
      omega
    · cases h
  · cases h

theorem length_of_expectPair {p : UInt8 → Bool} {s r : List UInt8} (h : expectPair p s = .ok r) :
    r.length < s.length := by
  unfold expectPair at h
  split at h
  · cases h
  · split at h
    · cases h
      simp
    · cases h

theorem length_of_readLowSurrogate {s r : List UInt8} {n : Nat} (h : readLowSurrogate s = .ok (n, r)) :
    r.length < s.length := by
  obtain ⟨s₁, h₁, h⟩ := ok_of_bind h
  obtain ⟨s₂, h₂, h⟩ := ok_of_bind h
  obtain ⟨⟨m, r₃⟩, h₃, h⟩ := ok_of_bind h
  have := length_of_expectPair h₁
  have := length_of_expectPair h₂
  have := length_of_readHex4 h₃
  dsimp only at h
  split at h <;> cases h
  omega

theorem length_of_readUnicodeEscape {s r : List UInt8} {c : Char} (h : readUnicodeEscape s = .ok (c, r)) :
    r.length < s.length := by
  obtain ⟨⟨n, r₁⟩, h₁, h⟩ := ok_of_bind h
  have := length_of_readHex4 h₁
  dsimp only at h
  split at h
  · cases h
  · split at h
    · obtain ⟨⟨m, r₂⟩, h₂, h⟩ := ok_of_bind h
      obtain ⟨-, rfl⟩ := Prod.mk.inj (Except.ok.inj h)
      exact Nat.lt_trans (length_of_readLowSurrogate h₂) (length_of_readHex4 h₁)
    · obtain ⟨-, rfl⟩ := Prod.mk.inj (Except.ok.inj h)
      assumption

theorem length_of_readEscape {s r bs : List UInt8} (h : readEscape s = .ok (bs, r)) : r.length < s.length := by
  unfold readEscape at h
  split at h
  · cases h
  · split at h
    · obtain ⟨⟨x, r₁⟩, h₁, h⟩ := ok_of_map h
      have := length_of_readUnicodeEscape h₁
      cases h
      simp
      omega
    · split at h <;> cases h
      simp

/-- The octets of a string after its opening quote, escapes replaced, and the rest after its closing quote. -/
def unescape : List UInt8 → Parsed (List UInt8)
  | [] => .error (.before .endInText [])
  | c :: r =>
    if c = quote then .ok ([], r)
    else if c = backslash then
      match h : readEscape r with
      | .error e => .error e
      | .ok (bs, r') =>
        have := length_of_readEscape h
        (unescape r').map fun (bs', rest) => (bs ++ bs', rest)
    else if c < 32 then .error (.before .controlCharacter r)
    else (unescape r).map fun (bs, rest) => (c :: bs, rest)
termination_by s => s.length

/-- Reads a string after its opening quote. An ill-formed sequence of octets is placed as far in front of the rest as
there are octets from it to the end of the string. -/
def readText (s : List UInt8) : Except Fault (String × List UInt8) := do
  let (bytes, rest) ← unescape s
  match Utf8.decode bytes with
  | .ok cs => return (String.ofList cs, rest)
  | .error bad => throw ⟨.notUnicode, rest.length + bad.length⟩

/-- Passes over an escape after its backslash. -/
def skipEscape (s : List UInt8) : Except Fault (List UInt8) :=
  match s with
  | [] => .error (.before .endInText [])
  | c :: r =>
    if isUnicodeMark c then (readHex4 r).map (·.2)
    else if (shortEscape? c).isSome then .ok r
    else .error (.before .invalidEscape r)

theorem length_of_skipEscape {s r : List UInt8} (h : skipEscape s = .ok r) : r.length < s.length := by
  unfold skipEscape at h
  split at h
  · cases h
  · split at h
    · obtain ⟨⟨x, r₁⟩, h₁, h⟩ := ok_of_map h
      have := length_of_readHex4 h₁
      cases h
      simp
      omega
    · split at h <;> cases h
      simp

/-- Passes over a string after its opening quote. -/
def skipText : List UInt8 → Except Fault (List UInt8)
  | [] => .error (.before .endInText [])
  | c :: r =>
    if c = quote then .ok r
    else if c = backslash then
      match h : skipEscape r with
      | .error e => .error e
      | .ok r' =>
        have := length_of_skipEscape h
        skipText r'
    else if c < 32 then .error (.before .controlCharacter (c :: r))
    else skipText r
termination_by s => s.length

theorem length_of_unescape {s r bs : List UInt8} (h : unescape s = .ok (bs, r)) : r.length < s.length := by
  fun_induction unescape s generalizing bs with
  | case1 => cases h
  | case2 => cases h; simp
  | case3 => cases h
  | case4 _ _ _ _ _ _ ih =>
    obtain ⟨⟨b, q⟩, h₂, h⟩ := ok_of_map h
    cases h
    have := ih h₂
    simp
    omega
  | case5 => cases h
  | case6 _ _ _ _ _ ih =>
    obtain ⟨⟨b, q⟩, h₂, h⟩ := ok_of_map h
    cases h
    have := ih h₂
    simp
    omega

theorem length_of_readText {s r : List UInt8} {t : String} (h : readText s = .ok (t, r)) : r.length < s.length := by
  obtain ⟨⟨bs, r₁⟩, h₁, h⟩ := ok_of_bind h
  have := length_of_unescape h₁
  dsimp only at h
  split at h <;> cases h
  assumption

theorem length_of_skipText {s r : List UInt8} (h : skipText s = .ok r) : r.length < s.length := by
  fun_induction skipText s with
  | case1 => cases h
  | case2 => cases h; simp
  | case3 => cases h
  | case4 _ _ _ _ _ ih =>
    have := ih h
    simp
    omega
  | case5 => cases h
  | case6 _ _ _ _ _ ih =>
    have := ih h
    simp
    omega

end LinkedSelect.Json
