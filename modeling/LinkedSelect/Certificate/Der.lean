/-!
# Certificates in DER

Every element is a tag, a length and that many octets. `isCertificate` looks at what an X.509 certificate has to be
before it can be trusted: a body, an algorithm and a signature of whole octets; the body has a serial number, the
algorithm, issuer, validity, subject and key. In the third version the algorithm is the same in both places, and there
may be extensions; in the first there are none. Contents that only matter when a chain is checked are not looked at.

* `Extension.isAccepted` tells which extensions may stand alone: the five that a checker knows have a certain form,
  and any other is not critical;
* `areTogether` tells that none of the five stands twice.
-/

namespace LinkedSelect.Der

/-- The tag of a sequence. -/
abbrev sequence : Nat := 0x30

/-- The tag of an integer. -/
abbrev integer : Nat := 0x02

/-- The tag of a truth value. -/
abbrev boolean : Nat := 0x01

/-- The tag of a string of bits. -/
abbrev bitString : Nat := 0x03

/-- The tag of a string of octets. -/
abbrev octetString : Nat := 0x04

/-- The tag of the name of an extension. -/
abbrev objectId : Nat := 0x06

/-- The tag of the version. -/
abbrev version : Nat := 0xA0

/-- The tag of the extensions. -/
abbrev extensions : Nat := 0xA3

/-- An element: its tag and its contents. -/
structure Element where
  tag : Nat
  contents : List UInt8
  deriving DecidableEq

/-- A number whose octets, the highest first, are these. -/
def bigEndian (octets : List UInt8) : Nat :=
  octets.foldl (fun v b => v * 256 + b.toNat) 0

/-- The bound of lengths. -/
abbrev lengthBound : Nat := 0xFFFF

/-- A length that takes one or two octets of its own and could not do with fewer. -/
def isLong (count value : Nat) : Bool :=
  (count = 1 && 128 ≤ value) || (count = 2 && 256 ≤ value && value < lengthBound)

/-- A length and the octets behind it; lengths take the shortest form. -/
def length? (s : List UInt8) : Option (Nat × List UInt8) :=
  match s with
  | [] => none
  | n :: r =>
    if n.toNat < 128 then some (n.toNat, r)
    else
      let count := n.toNat - 128
      if count ≤ r.length ∧ isLong count (bigEndian (r.take count)) then
        some (bigEndian (r.take count), r.drop count)
      else none

/-- The first element and the octets behind it. -/
def element? (s : List UInt8) : Option (Element × List UInt8) :=
  match s with
  | [] => none
  | t :: r =>
    if t.toNat % 32 = 31 then none
    else
      match length? r with
      | none => none
      | some (n, r) => if n ≤ r.length then some (⟨t.toNat, r.take n⟩, r.drop n) else none

theorem length_of_length? {s r : List UInt8} {n : Nat} (h : length? s = some (n, r)) : r.length < s.length := by
  unfold length? at h
  split at h
  · cases h
  · split at h
    · cases h
      simp
    · dsimp only at h
      split at h
      · obtain ⟨-, rfl⟩ := Prod.mk.inj (Option.some.inj h)
        rw [List.length_drop, List.length_cons]
        omega
      · cases h

theorem length_of_element? {s r : List UInt8} {e : Element} (h : element? s = some (e, r)) :
    r.length < s.length := by
  unfold element? at h
  split at h
  · cases h
  · split at h
    · cases h
    · split at h
      · cases h
      · next hl =>
        have := length_of_length? hl
        split at h <;> cases h
        simp
        omega

/-- The elements that some octets consist of. -/
def elements? (s : List UInt8) : Option (List Element) :=
  if s = [] then some []
  else
    match h : element? s with
    | none => none
    | some (e, r) =>
      have := length_of_element? h
      (elements? r).map (e :: ·)
termination_by s.length

/-- An extension. -/
structure Extension where
  name : List UInt8
  critical : Bool
  value : List UInt8

/-- An extension: its name, perhaps whether it is critical, and its value. -/
def extension? (e : Element) : Option Extension :=
  if e.tag = sequence then
    match elements? e.contents with
    | some [name, value] =>
      if name.tag = objectId ∧ value.tag = octetString then some ⟨name.contents, false, value.contents⟩ else none
    | some [name, critical, value] =>
      if name.tag = objectId ∧ critical.tag = boolean ∧ value.tag = octetString then
        match critical.contents with
        | [0] => some ⟨name.contents, false, value.contents⟩
        | [255] => some ⟨name.contents, true, value.contents⟩
        | _ => none
      else none
    | _ => none
  else none

/-- The name of the extension that says what a key may be used for. -/
def keyUsage : List UInt8 := [0x55, 0x1D, 0x0F]

/-- The names of the extensions whose value is a sequence: other names, constraints on what a key may sign and for
whom, and the purposes of a key. -/
def sequenceNames : List (List UInt8) :=
  [[0x55, 0x1D, 0x11], [0x55, 0x1D, 0x13], [0x55, 0x1D, 0x1E], [0x55, 0x1D, 0x25]]

/-- The octets are one sequence. -/
def isSequence (s : List UInt8) : Bool :=
  match elements? s with
  | some [e] => e.tag = sequence
  | _ => false

/-- The extension may stand in a certificate. -/
def Extension.isAccepted (x : Extension) : Bool :=
  if x.name = keyUsage then true
  else if x.name ∈ sequenceNames then isSequence x.value
  else !x.critical

/-- The extensions may stand beside each other. -/
def areTogether (xs : List Extension) : Bool :=
  (keyUsage :: sequenceNames).all fun name => (xs.map (·.name)).count name ≤ 1

/-- What may follow the key of a certificate of the third version: nothing, or one list of one or more extensions. -/
def areExtensions (rest : List Element) : Bool :=
  match rest with
  | [] => true
  | [e] =>
    e.tag = extensions &&
      match elements? e.contents with
      | some [list] =>
        list.tag = sequence && list.contents ≠ [] &&
          match (elements? list.contents).bind (·.mapM extension?) with
          | some xs => xs.all (·.isAccepted) && areTogether xs
          | none => false
      | _ => false
  | _ => false

/-- The part of a body from the algorithm on, up to the key. -/
def isNamed (rest : List Element) : Bool :=
  5 ≤ rest.length && (rest.take 5).all (·.tag = sequence)

/-- The body of a certificate that is signed by an algorithm. -/
def isBody (algorithm : Element) (body : List Element) : Bool :=
  match body with
  | first :: serial :: rest =>
    if first.tag = version then
      -- the third version is counted from zero
      first.contents = [2, 1, 2] && serial.tag = integer && isNamed rest && rest.head? = some algorithm &&
        areExtensions (rest.drop 5)
    else first.tag = integer && isNamed (serial :: rest) && rest.length = 4
  | _ => false

/-- A string of bits that fills its octets. -/
def isWholeOctets (e : Element) : Bool :=
  e.tag = bitString && e.contents.head? = some 0

/-- The octets are a certificate that can be trusted. -/
def isCertificate (s : List UInt8) : Bool :=
  match elements? s with
  | some [whole] =>
    whole.tag = sequence &&
      match elements? whole.contents with
      | some [body, algorithm, signature] =>
        body.tag = sequence && algorithm.tag = sequence && isWholeOctets signature &&
          ((elements? body.contents).map (isBody algorithm)).getD false
      | _ => false
  | _ => false

end LinkedSelect.Der
