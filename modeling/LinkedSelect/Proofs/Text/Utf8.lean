import LinkedSelect.Text.Utf8

/-!
# What is encoded as UTF-8 decodes

* The octets of a character are split off again, whatever follows them (`decodeChar?_append`), so a text decodes to
  itself (`decode_encode`).
* A character of ASCII is one octet, that with its code, and no octet of another character is one of ASCII
  (`encodeChar_cases`): whoever looks for a character of ASCII in a text may look for its octet.
-/

namespace LinkedSelect.Utf8

/-- A character of ASCII is the octet with its code, and others are octets above those. -/
theorem encodeChar_cases (c : Char) :
    (c.toNat < 128 ∧ String.utf8EncodeChar c = [UInt8.ofNat c.toNat]) ∨
      (128 ≤ c.toNat ∧ ∀ b ∈ String.utf8EncodeChar c, 128 ≤ b.toNat) := by
  have hc : c.val.toNat = c.toNat := rfl
  unfold String.utf8EncodeChar
  simp only [hc]
  by_cases h₁ : c.toNat ≤ 127
  · left
    exact ⟨by omega, if_pos h₁⟩
  · right
    refine ⟨by omega, ?_⟩
    rw [if_neg h₁]
    split
    · simp
      omega
    · split
      · simp
        omega
      · simp
        omega

/-- The scalar value with a number is the character with that code. -/
theorem scalar?_eq (c : Char) {least : Nat} (h : least ≤ c.toNat) : scalar? least c.toNat = some c := by
  have hv : c.toNat.isValidChar := c.valid
  rw [scalar?, dif_pos ⟨h, hv⟩]
  rfl

theorem continuation?_ofNat (n : Nat) : continuation? (UInt8.ofNat (n % 64 + 128)) = some (n % 64) := by
  have h : (UInt8.ofNat (n % 64 + 128)).toNat = n % 64 + 128 := by simp; omega
  simp only [continuation?, h]
  rw [if_pos (by omega)]
  congr 1
  omega

theorem toNat_ofNat {n : Nat} (h : n < 256) : (UInt8.ofNat n).toNat = n := by
  simpa using h

/-- The octets of a character are split off as that character. -/
theorem decodeChar?_append (c : Char) (r : List UInt8) :
    decodeChar? (String.utf8EncodeChar c ++ r) = some (c, r) := by
  have hc : c.val.toNat = c.toNat := rfl
  have hmax : c.toNat < 0x110000 := by
    have h := c.valid
    simp only [UInt32.isValidChar, Nat.isValidChar, hc] at h
    omega
  unfold String.utf8EncodeChar
  simp only [hc]
  split
  · next h₁ =>
    have ha : (UInt8.ofNat c.toNat).toNat = c.toNat := toNat_ofNat (by omega)
    simp only [List.singleton_append, decodeChar?, ha]
    rw [if_pos (by omega), scalar?_eq c (by omega)]
    rfl
  · split
    · next h₁ h₂ =>
      have ha : (UInt8.ofNat (c.toNat / 64 % 32 + 192)).toNat = c.toNat / 64 % 32 + 192 := toNat_ofNat (by omega)
      have hv : (c.toNat / 64 % 32 + 192) % 32 * 64 + c.toNat % 64 = c.toNat := by omega
      simp only [List.cons_append, List.nil_append, decodeChar?, ha]
      rw [if_neg (by omega), if_pos (by omega)]
      simp only [continuation?_ofNat, Option.bind_eq_bind, Option.bind_some, hv,
        scalar?_eq c (show 0x80 ≤ c.toNat by omega)]
      rfl
    · split
      · next h₁ h₂ h₃ =>
        have ha : (UInt8.ofNat (c.toNat / 4096 % 16 + 224)).toNat = c.toNat / 4096 % 16 + 224 :=
          toNat_ofNat (by omega)
        have hv : ((c.toNat / 4096 % 16 + 224) % 16 * 64 + c.toNat / 64 % 64) * 64 + c.toNat % 64 = c.toNat := by
          omega
        simp only [List.cons_append, List.nil_append, decodeChar?, ha]
        rw [if_neg (by omega), if_neg (by omega), if_pos (by omega)]
        simp only [continuation?_ofNat, Option.bind_eq_bind, Option.bind_some, hv,
          scalar?_eq c (show 0x800 ≤ c.toNat by omega)]
        rfl
      · next h₁ h₂ h₃ =>
        have ha : (UInt8.ofNat (c.toNat / 262144 % 8 + 240)).toNat = c.toNat / 262144 % 8 + 240 :=
          toNat_ofNat (by omega)
        have hv : (((c.toNat / 262144 % 8 + 240) % 8 * 64 + c.toNat / 4096 % 64) * 64 + c.toNat / 64 % 64) * 64 +
            c.toNat % 64 = c.toNat := by omega
        simp only [List.cons_append, List.nil_append, decodeChar?, ha]
        rw [if_neg (by omega), if_neg (by omega), if_neg (by omega), if_pos (by omega)]
        simp only [continuation?_ofNat, Option.bind_eq_bind, Option.bind_some, hv,
          scalar?_eq c (show 0x10000 ≤ c.toNat by omega)]
        rfl

/-- What is encoded decodes to itself. -/
theorem decode_encode (cs : List Char) : decode (encode cs) = .ok cs := by
  induction cs with
  | nil =>
    rw [decode]
    rfl
  | cons c cs ih =>
    have h : decodeChar? (encode (c :: cs)) = some (c, encode cs) := decodeChar?_append c _
    rw [decode]
    split
    · next h' =>
      rw [h] at h'
      cases h'
      rw [ih]
      rfl
    · next h' =>
      rw [h] at h'
      cases h'

end LinkedSelect.Utf8
