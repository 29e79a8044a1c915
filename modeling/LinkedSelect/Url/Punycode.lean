/-!
# Labels outside ASCII

A label is written in ASCII as its ASCII characters, a hyphen, and the differences between its other characters and
their places in ascending order, each as a number of variable length in base 36 whose digit bounds adapt.
-/

namespace LinkedSelect.Url.Punycode

/-- The digit of a value below 36. -/
def digit (d : Nat) : Char :=
  if d < 26 then Char.ofNat (97 + d) else Char.ofNat (22 + d)

/-- The value of a digit of either case. -/
def value? (c : Char) : Option Nat :=
  let n := c.toNat
  if 97 ≤ n ∧ n ≤ 122 then some (n - 97)
  else if 65 ≤ n ∧ n ≤ 90 then some (n - 65)
  else if 48 ≤ n ∧ n ≤ 57 then some (n - 22)
  else none

/-- The bound of a digit at place `k`. -/
def bound (bias k : Nat) : Nat :=
  min 26 (max 1 (k - bias))

theorem bound_bounds (bias k : Nat) : 1 ≤ bound bias k ∧ bound bias k ≤ 26 := by
  unfold bound
  omega

/-- Divides by 35 until the number is small, counting 36 for each time. -/
def damp (delta k : Nat) : Nat × Nat :=
  if 455 < delta then damp (delta / 35) (k + 36) else (delta, k)
termination_by delta
decreasing_by exact Nat.div_lt_self (by omega) (by omega)

/-- The bias after a difference, with `count` characters in place. -/
def adapt (delta count : Nat) (first : Bool) : Nat :=
  let delta := if first then delta / 700 else delta / 2
  let (delta, k) := damp (delta + delta / count) 0
  k + 36 * delta / (delta + 38)

/-- The digits of a difference from place `k` on. -/
def digits (bias k q : Nat) : List Char :=
  let t := bound bias k
  if q < t then [digit q]
  else digit (t + (q - t) % (36 - t)) :: digits bias (k + 36) ((q - t) / (36 - t))
termination_by q
decreasing_by
  have := bound_bounds bias k
  have : (q - bound bias k) / (36 - bound bias k) ≤ q - bound bias k := Nat.div_le_self _ _
  omega

/-- Where an encoding stands. -/
structure State where
  out : List Char
  delta : Nat
  bias : Nat
  /-- characters in place -/
  count : Nat

/-- Passes one character of the label while the code point `n` is placed. -/
def pass (basic n : Nat) (s : State) (c : Char) : State :=
  if c.toNat < n then { s with delta := s.delta + 1 }
  else if c.toNat = n then
    { out := s.out ++ digits s.bias 36 s.delta
      delta := 0
      bias := adapt s.delta (s.count + 1) (s.count == basic)
      count := s.count + 1 }
  else s

/-- Places the code points in turn, each above `n - 1`. -/
def placeAll (label : List Char) (basic : Nat) : List Nat → Nat → State → State
  | [], _, s => s
  | m :: ms, n, s =>
    let s := { s with delta := s.delta + (m - n) * (s.count + 1) }
    let s := label.foldl (pass basic m) s
    placeAll label basic ms (m + 1) { s with delta := s.delta + 1 }

/-- A number put in its place in an ascending list without repetitions. -/
def insertAscending (n : Nat) : List Nat → List Nat
  | [] => [n]
  | m :: ms => if n < m then n :: m :: ms else if n = m then m :: ms else m :: insertAscending n ms

/-- A label in ASCII, without the mark that announces it. -/
def encode (label : List Char) : List Char :=
  let basic := label.filter (·.toNat < 128)
  let others := (label.filter (128 ≤ ·.toNat)).foldl (fun ms c => insertAscending c.toNat ms) []
  let start := if basic = [] then [] else basic ++ ['-']
  (placeAll label basic.length others 128 ⟨start, 0, 72, basic.length⟩).out

/-- Reads a difference: its value so far, the weight of the next digit, and the place. -/
def readDelta (bias : Nat) : Nat → Nat → Nat → List Char → Option (Nat × List Char)
  | _, _, _, [] => none
  | i, w, k, c :: cs =>
    match value? c with
    | none => none
    | some d =>
      let t := bound bias k
      if d < t then some (i + d * w, cs) else readDelta bias (i + d * w) (w * (36 - t)) (k + 36) cs

theorem length_of_readDelta {bias i w k j : Nat} {cs r : List Char} (h : readDelta bias i w k cs = some (j, r)) :
    r.length < cs.length := by
  induction cs generalizing i w k with
  | nil => cases h
  | cons c cs ih =>
    unfold readDelta at h
    split at h
    · cases h
    · dsimp only at h
      split at h
      · cases h
        simp
      · have := ih h
        simp
        omega

/-- Reads differences and puts each character in its place. -/
def readAll (out : List Char) (n i bias : Nat) (first : Bool) (cs : List Char) : Option (List Char) :=
  if cs = [] then some out
  else
    match h : readDelta bias i 1 36 cs with
    | none => none
    | some (j, rest) =>
      have := length_of_readDelta h
      let size := out.length + 1
      let m := n + j / size
      if m.isValidChar then
        let place := j % size
        let out := out.take place ++ Char.ofNat m :: out.drop place
        readAll out m (place + 1) (adapt (j - i) size first) false rest
      else none
termination_by cs.length

/-- A label behind its ASCII form, without the mark that announces it. A hyphen in front of everything ends nothing. -/
def decode? (cs : List Char) : Option (List Char) :=
  let tail := (cs.reverse.takeWhile (· != '-')).reverse
  let basic := cs.take (cs.length - tail.length)
  if basic = ['-'] then none else readAll basic.dropLast 128 0 72 true tail

end LinkedSelect.Url.Punycode
