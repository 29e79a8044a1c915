/-!
# Base 64

Three octets make four characters of a fixed alphabet; `encode` fills up the last group with `=`. `decode?` does not
insist on the filling, which may also be left out in part, but on a last group without bits that the octets do not
need.
-/

namespace LinkedSelect.Base64

/-- The character of a value below 64. -/
def digit (n : Nat) : Char :=
  if n < 26 then Char.ofNat (65 + n)
  else if n < 52 then Char.ofNat (71 + n)
  else if n < 62 then Char.ofNat (n - 4)
  else if n = 62 then '+'
  else '/'

/-- The value of a character. -/
def value? (c : Char) : Option Nat :=
  let n := c.toNat
  if 65 ≤ n ∧ n ≤ 90 then some (n - 65)
  else if 97 ≤ n ∧ n ≤ 122 then some (n - 71)
  else if 48 ≤ n ∧ n ≤ 57 then some (n + 4)
  else if c = '+' then some 62
  else if c = '/' then some 63
  else none

/-- The characters of some octets. -/
def encode : List UInt8 → List Char
  | [] => []
  | [a] => [digit (a.toNat / 4), digit (a.toNat % 4 * 16), '=', '=']
  | [a, b] =>
    [digit (a.toNat / 4), digit (a.toNat % 4 * 16 + b.toNat / 16), digit (b.toNat % 16 * 4), '=']
  | a :: b :: c :: rest =>
    digit (a.toNat / 4) :: digit (a.toNat % 4 * 16 + b.toNat / 16) ::
      digit (b.toNat % 16 * 4 + c.toNat / 64) :: digit (c.toNat % 64) :: encode rest

/-- The octets of characters without a filling; no bit that the octets do not need is set. -/
def decodeGroups? : List Char → Option (List UInt8)
  | [] => some []
  | [a, b] => do
    let x ← value? a
    let y ← value? b
    if y % 16 = 0 then some [UInt8.ofNat (x * 4 + y / 16)] else none
  | [a, b, c] => do
    let x ← value? a
    let y ← value? b
    let z ← value? c
    if z % 4 = 0 then some [UInt8.ofNat (x * 4 + y / 16), UInt8.ofNat (y % 16 * 16 + z / 4)] else none
  | a :: b :: c :: d :: rest => do
    let x ← value? a
    let y ← value? b
    let z ← value? c
    let w ← value? d
    let octets ← decodeGroups? rest
    return UInt8.ofNat (x * 4 + y / 16) :: UInt8.ofNat (y % 16 * 16 + z / 4) :: UInt8.ofNat (z % 4 * 64 + w) :: octets
  | _ => none

/-- These characters fill up a last group of `count` characters, or a part of what it lacks. -/
def isFilling (count : Nat) (cs : List Char) : Bool :=
  cs.all (· == '=') && (cs = [] || (2 ≤ count && count + cs.length ≤ 4))

/-- The octets of a text. -/
def decode? (cs : List Char) : Option (List UInt8) :=
  let body := cs.takeWhile (· != '=')
  if isFilling (body.length % 4) (cs.dropWhile (· != '=')) then decodeGroups? body else none

end LinkedSelect.Base64
