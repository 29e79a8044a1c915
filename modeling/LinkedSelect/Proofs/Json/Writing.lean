import LinkedSelect.Proofs.Json.Grammar

/-!
# Every value has a text

`Value.octets` writes a value without blanks, and with escapes only where a character may not stand as it is. What it
writes is a text of the value (`Value.isText_octets`).
-/

namespace LinkedSelect.Json

/-- The octet of a hexadecimal digit. -/
def hexOctet (d : Nat) : UInt8 :=
  UInt8.ofNat (if d < 10 then 48 + d else 87 + d)

/-- A character of a string as it is, or as an escape where it may not stand. -/
def spelling (c : Char) : List UInt8 :=
  if c = '"' then [backslash, quote]
  else if c = '\\' then [backslash, backslash]
  else if c.toNat < 32 then [backslash, 117, zero, zero, hexOctet (c.toNat / 16), hexOctet (c.toNat % 16)]
  else String.utf8EncodeChar c

/-- A string behind its opening quote. -/
def textOctets (s : String) : List UInt8 :=
  s.toList.flatMap spelling ++ [quote]

mutual

/-- The text of a value. -/
def Value.octets : Value → List UInt8
  | .null => [110, 117, 108, 108]
  | .boolean true => [116, 114, 117, 101]
  | .boolean false => [102, 97, 108, 115, 101]
  | .number l => l.octets
  | .text s => quote :: textOctets s
  | .list vs => openList :: elementsOctets true vs
  | .object ms => openObject :: membersOctets true ms

/-- What is left of a list, up to its closing bracket. -/
def elementsOctets : Bool → List Value → List UInt8
  | _, [] => [closeList]
  | first, v :: vs => (if first then [] else [comma]) ++ (v.octets ++ elementsOctets false vs)

/-- What is left of an object, up to its closing brace. -/
def membersOctets : Bool → List (String × Value) → List UInt8
  | _, [] => [closeObject]
  | first, (key, v) :: ms =>
    (if first then [] else [comma]) ++ (quote :: textOctets key ++ (colon :: v.octets ++ membersOctets false ms))

end

theorem hexOctet_value : ∀ d : Fin 16, Hex.value? (hexOctet d).toNat = some d.val := by
  decide

theorem spelled_spelling (c : Char) (r : List UInt8) : Spelled c (spelling c ++ r) r := by
  rw [spelling]
  split
  · next h =>
    subst h
    exact .short (by decide)
  · split
    · next h =>
      subst h
      exact .short (by decide)
    · split
      · next h =>
        refine .unit ⟨_, _, _, _, 0, 0, c.toNat / 16, c.toNat % 16, rfl, rfl, rfl, ?_, ?_, by omega⟩
        · exact hexOctet_value ⟨c.toNat / 16, by omega⟩
        · exact hexOctet_value ⟨c.toNat % 16, by omega⟩
      · next hq hb h => exact .plain (by omega) hq hb

theorem spells_textOctets (s : String) (r : List UInt8) : Spells s.toList (textOctets s ++ r) r := by
  have spells (cs : List Char) : Spells cs (cs.flatMap spelling ++ (quote :: r)) r := by
    induction cs with
    | nil => exact .close
    | cons c cs ih =>
      rw [List.flatMap_cons, List.append_assoc]
      exact .cons (spelled_spelling c _) ih
  rw [textOctets, List.append_assoc]
  exact spells s.toList

mutual

theorem Value.writes_octets : ∀ (v : Value) (r : List UInt8), v.Writes (v.octets ++ r) r
  | .null, _ => .null
  | .boolean true, _ => .yes
  | .boolean false, _ => .no
  | .number _, _ => .number
  | .text s, r => by
    have h := Value.Writes.text (spells_textOctets s r)
    rwa [String.ofList_toList] at h
  | .list vs, r => .list (elements_octets true vs r)
  | .object ms, r => .object (members_octets true ms r)

theorem elements_octets : ∀ (first : Bool) (vs : List Value) (r : List UInt8),
    Elements first vs (elementsOctets first vs ++ r) r
  | _, [], _ => .close .none
  | true, v :: vs, r => by
    have ht := elements_octets false vs r
    rw [elementsOctets, if_pos rfl, List.nil_append, List.append_assoc]
    exact .first .none (v.writes_octets _) ht
  | false, v :: vs, r => by
    have ht := elements_octets false vs r
    rw [elementsOctets, if_neg (by decide), List.append_assoc, List.append_assoc]
    exact .next .none .none (v.writes_octets _) ht

theorem members_octets : ∀ (first : Bool) (ms : List (String × Value)) (r : List UInt8),
    Members first ms (membersOctets first ms ++ r) r
  | _, [], _ => .close .none
  | true, (key, v) :: ms, r => by
    have ht := members_octets false ms r
    have h := Members.first .none (spells_textOctets key _) .none .none (v.writes_octets _) ht
    rw [String.ofList_toList] at h
    simpa only [membersOctets, if_true, List.nil_append, List.append_assoc, List.cons_append] using h
  | false, (key, v) :: ms, r => by
    have ht := members_octets false ms r
    have h := Members.next .none .none (spells_textOctets key _) .none .none (v.writes_octets _) ht
    rw [String.ofList_toList] at h
    simpa only [membersOctets, Bool.false_eq_true, if_false, List.append_assoc, List.cons_append,
      List.nil_append] using h

end

/-- What a value is written as is a text of it. -/
theorem Value.isText_octets (v : Value) : v.IsText v.octets :=
  ⟨v.octets, [], .none, by simpa using v.writes_octets [], .none⟩

end LinkedSelect.Json
