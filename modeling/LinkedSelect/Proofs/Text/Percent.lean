import LinkedSelect.Text.Percent
import LinkedSelect.Proofs.Text.Utf8

/-!
# Percent-encoded texts read back

* An encoded text holds nothing but unreserved characters and triples of a percent sign and two digits in upper case
  (`encoded_encode`), so no character of another kind stands in it (`Encoded.isCoded`).
* The octets of an encoded text decode to those that were encoded (`decode_encodeWith`), and these spell the text
  (`decode_encode`). Both go octet by octet: `decode_cons` for one that stands for itself, `decode_escape` for a triple.
-/

namespace LinkedSelect

namespace Hex

/-- A digit, where letters are in upper case. -/
def isUpper (c : Char) : Bool :=
  c.isDigit || ('A' ≤ c && c ≤ 'F')

theorem isUpper_upper {n : Nat} (h : n < 16) : isUpper (upper n) = true := by
  have all : ∀ m ∈ List.range 16, isUpper (upper m) = true := by decide
  exact all n (List.mem_range.mpr h)

theorem toNat_upper_lt {n : Nat} (h : n < 16) : (upper n).toNat < 128 := by
  have all : ∀ m ∈ List.range 16, (upper m).toNat < 128 := by decide
  exact all n (List.mem_range.mpr h)

end Hex

namespace Percent

/-! ## What stands in an encoded text -/

/-- A letter or a digit of ASCII, or one of `-`, `_`, `.` and `~`. -/
def isUnreservedChar (c : Char) : Bool :=
  c.isAlphanum || c ∈ ['-', '_', '.', '~']

/-- A text of unreserved characters and of triples: a percent sign and two digits in upper case. -/
inductive Encoded : List Char → Prop
  | nil : Encoded []
  | plain {c : Char} {cs : List Char} (h : isUnreservedChar c = true) (hcs : Encoded cs) : Encoded (c :: cs)
  | triple {a b : Char} {cs : List Char} (ha : Hex.isUpper a = true) (hb : Hex.isUpper b = true) (hcs : Encoded cs) :
      Encoded ('%' :: a :: b :: cs)

/-- The character of an unreserved octet is unreserved. -/
theorem isUnreservedChar_of_octet {b : UInt8} (h : isUnreserved b = true) :
    isUnreservedChar (Char.ofNat b.toNat) = true := by
  have all : ∀ n ∈ List.range 256, isUnreserved (UInt8.ofNat n) = true → isUnreservedChar (Char.ofNat n) = true := by
    decide +kernel
  refine all b.toNat (List.mem_range.mpr b.toNat_lt) ?_
  rwa [UInt8.ofNat_toNat]

theorem encoded_encodeWith (bytes : List UInt8) : Encoded (encodeWith isUnreserved bytes) := by
  induction bytes with
  | nil => exact .nil
  | cons b bytes ih =>
    rw [encodeWith, List.flatMap_cons]
    split
    · next h => exact .plain (isUnreservedChar_of_octet h) ih
    · have hb := b.toNat_lt
      exact .triple (Hex.isUpper_upper (by omega)) (Hex.isUpper_upper (by omega)) ih

/-- A query value holds unreserved characters and triples alone. -/
theorem encoded_encode (s : String) : Encoded (encode s).toList := by
  rw [encode, String.toList_ofList]
  exact encoded_encodeWith _

/-- Each character of an encoded text is unreserved, a percent sign or a digit. -/
theorem Encoded.isCoded {cs : List Char} (h : Encoded cs) :
    ∀ c ∈ cs, isUnreservedChar c = true ∨ c = '%' ∨ Hex.isUpper c = true := by
  induction h with
  | nil => exact fun c hc => absurd hc List.not_mem_nil
  | plain hc _ ih => exact List.forall_mem_cons.mpr ⟨.inl hc, ih⟩
  | triple ha hb _ ih =>
    exact List.forall_mem_cons.mpr ⟨.inr (.inl rfl), List.forall_mem_cons.mpr ⟨.inr (.inr ha),
      List.forall_mem_cons.mpr ⟨.inr (.inr hb), ih⟩⟩⟩

/-! ## Reading it back -/

/-- An octet that is no percent sign stands for itself. -/
theorem decode_cons {b : UInt8} (h : b ≠ 37) (bytes : List UInt8) : decode (b :: bytes) = b :: decode bytes := by
  match bytes with
  | [] => rfl
  | [_] => rfl
  | _ :: _ :: _ => rw [decode, if_neg h]

/-- A percent sign and the two digits of an octet stand for it. -/
theorem decode_escape (b : UInt8) (bytes : List UInt8) :
    decode (Utf8.encode (escape b) ++ bytes) = b :: decode bytes := by
  have hb := b.toNat_lt
  have digit {n : Nat} (h : n < 16) : String.utf8EncodeChar (Hex.upper n) = [UInt8.ofNat (Hex.upper n).toNat] ∧
      Hex.value? (UInt8.ofNat (Hex.upper n).toNat).toNat = some n := by
    have hlt := Hex.toNat_upper_lt h
    rw [Utf8.toNat_ofNat (by omega), Hex.value?_upper h]
    refine ⟨?_, rfl⟩
    rcases Utf8.encodeChar_cases (Hex.upper n) with ⟨-, he⟩ | ⟨hge, -⟩
    · exact he
    · omega
  obtain ⟨hhigh, vhigh⟩ := digit (n := b.toNat / 16) (by omega)
  obtain ⟨hlow, vlow⟩ := digit (n := b.toNat % 16) (by omega)
  have octet : octet? (UInt8.ofNat (Hex.upper (b.toNat / 16)).toNat) (UInt8.ofNat (Hex.upper (b.toNat % 16)).toNat) =
      some b := by
    simp only [octet?, vhigh, vlow, Option.bind_eq_bind, Option.bind_some]
    rw [Nat.div_add_mod, UInt8.ofNat_toNat]
    rfl
  have spelled : Utf8.encode (escape b) = [37, UInt8.ofNat (Hex.upper (b.toNat / 16)).toNat,
      UInt8.ofNat (Hex.upper (b.toNat % 16)).toNat] := by
    simp only [Utf8.encode, escape, List.flatMap_cons, List.flatMap_nil, hhigh, hlow]
    rfl
  rw [spelled]
  simp only [List.cons_append, List.nil_append, decode, if_true, octet]

/-- Octets that are encoded decode to themselves, if those that are left as they are belong to ASCII and are no percent
signs. -/
theorem decode_encodeWith {plain : UInt8 → Bool} (h : ∀ b, plain b = true → b.toNat < 128 ∧ b ≠ 37)
    (bytes : List UInt8) : decode (Utf8.encode (encodeWith plain bytes)) = bytes := by
  induction bytes with
  | nil => rfl
  | cons b bytes ih =>
    rw [encodeWith, List.flatMap_cons, Utf8.encode, List.flatMap_append]
    by_cases hp : plain b = true
    · obtain ⟨hlt, hne⟩ := h b hp
      have hv : b.toNat.isValidChar := .inl (by omega)
      have hc : (Char.ofNat b.toNat).toNat = b.toNat := by
        rw [Char.ofNat, dif_pos hv]
        rfl
      have single : String.utf8EncodeChar (Char.ofNat b.toNat) = [b] := by
        rcases Utf8.encodeChar_cases (Char.ofNat b.toNat) with ⟨-, he⟩ | ⟨hge, -⟩
        · rw [he, hc, UInt8.ofNat_toNat]
        · omega
      rw [if_pos hp, List.flatMap_singleton, single, List.singleton_append, decode_cons hne]
      exact congrArg (b :: ·) ih
    · rw [if_neg hp]
      exact (decode_escape b _).trans (congrArg (b :: ·) ih)

/-- **A query value reads back as the text that was encoded.** -/
theorem decode_encode (s : String) :
    Utf8.decode (decode (Utf8.encode (encode s).toList)) = .ok s.toList := by
  have plain : ∀ b, isUnreserved b = true → b.toNat < 128 ∧ b ≠ 37 := by
    intro b h
    simp only [isUnreserved, Bool.or_eq_true, Bool.and_eq_true, decide_eq_true_eq, beq_iff_eq] at h
    exact ⟨by omega, fun e => by rw [e] at h; simp at h⟩
  rw [encode, String.toList_ofList, decode_encodeWith plain]
  exact Utf8.decode_encode s.toList

end Percent

end LinkedSelect
