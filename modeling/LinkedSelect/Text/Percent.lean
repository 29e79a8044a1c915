import LinkedSelect.Text.Hex
import LinkedSelect.Text.Utf8

/-!
# Percent-encoding

* `encodeWith` writes octets as text: those of a chosen set stand for themselves, the others are written `%XX`
  with digits in upper case;
* `encode` is the form of a query value, where only unreserved characters stand for themselves;
* `decode` reads `%XX` in either case; a percent sign without two digits stands for itself.
-/

namespace LinkedSelect.Percent

/-- An octet as a percent sign and two digits. -/
def escape (b : UInt8) : List Char :=
  ['%', Hex.upper (b.toNat / 16), Hex.upper (b.toNat % 16)]

/-- The octets as text, those outside `plain` escaped. -/
def encodeWith (plain : UInt8 → Bool) (bytes : List UInt8) : List Char :=
  bytes.flatMap fun b => if plain b then [Char.ofNat b.toNat] else escape b

/-- Letters, digits and `-`, `_`, `.`, `~`. -/
def isUnreserved (b : UInt8) : Bool :=
  let n := b.toNat
  (48 ≤ n && n ≤ 57) || (65 ≤ n && n ≤ 90) || (97 ≤ n && n ≤ 122) ||
    n == 45 || n == 95 || n == 46 || n == 126

/-- A query value: the UTF-8 octets of the text, all but unreserved ones escaped. -/
def encode (s : String) : String :=
  String.ofList (encodeWith isUnreserved (Utf8.encode s.toList))

/-- The octet that two digits stand for. -/
def octet? (a b : UInt8) : Option UInt8 := do
  let x ← Hex.value? a.toNat
  let y ← Hex.value? b.toNat
  return UInt8.ofNat (16 * x + y)

/-- The octets behind a percent-encoded list of octets. -/
def decode : List UInt8 → List UInt8
  | c :: a :: b :: rest =>
    match if c = 37 then octet? a b else none with
    | some o => o :: decode rest
    | none => c :: decode (a :: b :: rest)
  | short => short

end LinkedSelect.Percent
