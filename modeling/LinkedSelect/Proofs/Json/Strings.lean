import LinkedSelect.Json.Text
import LinkedSelect.Proofs.Json.Grammar
import LinkedSelect.Proofs.Text.Utf8

/-!
# Strings are read as they are spelled

However its characters are written, a string is read as its characters (`readText_of_spells`), and it is passed over
where it is only skipped (`skipText_of_spells`). Both go character by character (`unescape_of_spelled`,
`skipText_of_spelled`).
-/

namespace LinkedSelect.Json

/-! ## Octets that stand for themselves -/

/-- An octet of a string that neither ends it nor opens an escape nor controls anything. -/
def IsPlain (b : UInt8) : Prop :=
  b ≠ quote ∧ b ≠ backslash ∧ ¬b < 32

/-- A character that may stand as it is has plain octets only. -/
theorem isPlain_of_mem {c : Char} (hlow : 32 ≤ c.toNat) (hq : c ≠ '"') (hb : c ≠ '\\') {b : UInt8}
    (h : b ∈ String.utf8EncodeChar c) : IsPlain b := by
  have toNat_ne {d : Char} (hd : c ≠ d) : c.toNat ≠ d.toNat := fun e => hd (Char.toNat_inj.mp e)
  have hq := toNat_ne hq
  have hb := toNat_ne hb
  have by_number : b.toNat ≠ 34 → b.toNat ≠ 92 → 32 ≤ b.toNat → IsPlain b := by
    intro h₁ h₂ h₃
    refine ⟨fun e => h₁ (by rw [e]; rfl), fun e => h₂ (by rw [e]; rfl), fun e => ?_⟩
    have := UInt8.lt_iff_toNat_lt.mp e
    simp only [UInt8.reduceToNat] at this
    omega
  rcases Utf8.encodeChar_cases c with ⟨hc, he⟩ | ⟨-, he⟩
  · rw [he, List.mem_singleton] at h
    have hn : b.toNat = c.toNat := by rw [h, Utf8.toNat_ofNat (by omega)]
    exact by_number (by rw [hn]; exact hq) (by rw [hn]; exact hb) (by omega)
  · have := he b h
    exact by_number (by omega) (by omega) (by omega)

/-- Plain octets are kept. -/
theorem unescape_append_plain {bs : List UInt8} (h : ∀ b ∈ bs, IsPlain b) (r : List UInt8) :
    unescape (bs ++ r) = (unescape r).map fun (t, rest) => (bs ++ t, rest) := by
  induction bs with
  | nil =>
    rw [List.nil_append]
    cases unescape r <;> rfl
  | cons b bs ih =>
    obtain ⟨hq, hb, hlow⟩ := h b List.mem_cons_self
    rw [List.cons_append, unescape, if_neg hq, if_neg hb, if_neg hlow,
      ih fun b' hb' => h b' (List.mem_cons_of_mem _ hb')]
    cases unescape r <;> rfl

/-- Plain octets are passed over. -/
theorem skipText_append_plain {bs : List UInt8} (h : ∀ b ∈ bs, IsPlain b) (r : List UInt8) :
    skipText (bs ++ r) = skipText r := by
  induction bs with
  | nil => rfl
  | cons b bs ih =>
    obtain ⟨hq, hb, hlow⟩ := h b List.mem_cons_self
    rw [List.cons_append, skipText, if_neg hq, if_neg hb, if_neg hlow,
      ih fun b' hb' => h b' (List.mem_cons_of_mem _ hb')]

/-! ## Escapes -/

theorem readHex4_of_hex4 {n : Nat} {s r : List UInt8} (h : Hex4 n s r) : readHex4 s = .ok (n, r) := by
  obtain ⟨a, b, c, d, x, y, z, w, rfl, ha, hb, hc, hd, rfl⟩ := h
  simp only [readHex4, ha, hb, hc, hd]

/-- No character is half of a pair. -/
theorem not_surrogate (c : Char) : isLowSurrogate c.toNat = false ∧ isHighSurrogate c.toNat = false := by
  have h : c.toNat.isValidChar := c.valid
  simp only [isLowSurrogate, isHighSurrogate, Bool.and_eq_false_iff, decide_eq_false_iff_not]
  rcases h with h | h <;> omega

/-- An escape by number is the character with that number. -/
theorem readUnicodeEscape_of_hex4 {c : Char} {s r : List UInt8} (h : Hex4 c.toNat s r) :
    readUnicodeEscape s = .ok (c, r) := by
  obtain ⟨hl, hh⟩ := not_surrogate c
  simp only [readUnicodeEscape, readHex4_of_hex4 h, bind, Except.bind, pure, Except.pure, hl, hh, Char.ofNat_toNat,
    Bool.false_eq_true, if_false]

/-- A pair of escapes is the character above `0xFFFF` that it stands for. -/
theorem readUnicodeEscape_of_pair {c : Char} {high low : Nat} {s t r : List UInt8}
    (hs : Hex4 high s (backslash :: 117 :: t)) (ht : Hex4 low t r) (hhigh : 0xD800 ≤ high ∧ high ≤ 0xDBFF)
    (hlow : 0xDC00 ≤ low ∧ low ≤ 0xDFFF)
    (hc : c.toNat = 0x10000 + (high - 0xD800) * 0x400 + (low - 0xDC00)) : readUnicodeEscape s = .ok (c, r) := by
  have h₁ : isLowSurrogate high = false := by
    simp only [isLowSurrogate, Bool.and_eq_false_iff, decide_eq_false_iff_not]
    omega
  have h₂ : isHighSurrogate high = true := by
    simp only [isHighSurrogate, Bool.and_eq_true, decide_eq_true_eq]
    exact hhigh
  have h₃ : isLowSurrogate low = true := by
    simp only [isLowSurrogate, Bool.and_eq_true, decide_eq_true_eq]
    exact hlow
  have second : readLowSurrogate (backslash :: 117 :: t) = .ok (low, r) := by
    simp only [readLowSurrogate, expectPair, isUnicodeMark, beq_self_eq_true, if_true, bind, Except.bind, pure,
      Except.pure, readHex4_of_hex4 ht, h₃]
  simp only [readUnicodeEscape, readHex4_of_hex4 hs, bind, Except.bind, pure, Except.pure, h₁, h₂, second, ← hc,
    Char.ofNat_toNat, Bool.false_eq_true, if_false, if_true]

/-- A short escape is the one octet of its character. -/
theorem shortEscape?_of_mem {letter : UInt8} {c : Char} (h : (letter, c) ∈ shortEscapes) :
    isUnicodeMark letter = false ∧ ∃ b, shortEscape? letter = some b ∧ String.utf8EncodeChar c = [b] := by
  simp only [shortEscapes, List.mem_cons, Prod.mk.injEq, List.not_mem_nil, or_false] at h
  rcases h with ⟨rfl, rfl⟩ | ⟨rfl, rfl⟩ | ⟨rfl, rfl⟩ | ⟨rfl, rfl⟩ | ⟨rfl, rfl⟩ | ⟨rfl, rfl⟩ | ⟨rfl, rfl⟩ | ⟨rfl, rfl⟩
  all_goals exact ⟨rfl, _, rfl, rfl⟩

theorem unescape_of_readEscape {s r bs : List UInt8} (h : readEscape s = .ok (bs, r)) :
    unescape (backslash :: s) = (unescape r).map fun (t, rest) => (bs ++ t, rest) := by
  rw [unescape, if_neg (by decide), if_pos rfl]
  split
  · next h' =>
    rw [h] at h'
    cases h'
  · next h' =>
    rw [h] at h'
    cases h'
    rfl

theorem skipText_of_skipEscape {s r : List UInt8} (h : skipEscape s = .ok r) :
    skipText (backslash :: s) = skipText r := by
  rw [skipText, if_neg (by decide), if_pos rfl]
  split
  · next h' =>
    rw [h] at h'
    cases h'
  · next h' =>
    rw [h] at h'
    cases h'
    rfl

theorem readEscape_of_unicode {c : Char} {s r : List UInt8} (h : readUnicodeEscape s = .ok (c, r)) :
    readEscape (117 :: s) = .ok (String.utf8EncodeChar c, r) := by
  simp only [readEscape, isUnicodeMark, beq_self_eq_true, if_true, h]
  rfl

theorem skipEscape_of_hex4 {n : Nat} {s r : List UInt8} (h : Hex4 n s r) : skipEscape (117 :: s) = .ok r := by
  simp only [skipEscape, isUnicodeMark, beq_self_eq_true, if_true, readHex4_of_hex4 h]
  rfl

/-! ## A character, and a whole string -/

/-- A character is read as its octets in UTF-8. -/
theorem unescape_of_spelled {c : Char} {s r : List UInt8} (h : Spelled c s r) :
    unescape s = (unescape r).map fun (t, rest) => (String.utf8EncodeChar c ++ t, rest) := by
  cases h with
  | plain hlow hq hb => exact unescape_append_plain (fun b => isPlain_of_mem hlow hq hb) r
  | short h =>
    obtain ⟨hu, b, hb, he⟩ := shortEscape?_of_mem h
    refine unescape_of_readEscape ?_
    simp only [readEscape, hu, hb, he, Bool.false_eq_true, if_false]
  | unit h => exact unescape_of_readEscape (readEscape_of_unicode (readUnicodeEscape_of_hex4 h))
  | pair hs ht hhigh hlow hc =>
    exact unescape_of_readEscape (readEscape_of_unicode (readUnicodeEscape_of_pair hs ht hhigh hlow hc))

/-- A character is passed over; a pair of escapes is two. -/
theorem skipText_of_spelled {c : Char} {s r : List UInt8} (h : Spelled c s r) : skipText s = skipText r := by
  cases h with
  | plain hlow hq hb => exact skipText_append_plain (fun b => isPlain_of_mem hlow hq hb) r
  | short h =>
    obtain ⟨hu, b, hb, -⟩ := shortEscape?_of_mem h
    refine skipText_of_skipEscape ?_
    simp only [skipEscape, hu, hb, Option.isSome_some, Bool.false_eq_true, if_false, if_true]
  | unit h => exact skipText_of_skipEscape (skipEscape_of_hex4 h)
  | pair hs ht _ _ _ =>
    rw [skipText_of_skipEscape (skipEscape_of_hex4 hs), skipText_of_skipEscape (skipEscape_of_hex4 ht)]

theorem unescape_of_spells {cs : List Char} {s r : List UInt8} (h : Spells cs s r) :
    unescape s = .ok (Utf8.encode cs, r) := by
  induction h with
  | close =>
    rw [unescape, if_pos rfl]
    rfl
  | cons h _ ih =>
    rw [unescape_of_spelled h, ih]
    rfl

/-- A string is read as its characters, and what follows its closing quote is left. -/
theorem readText_of_spells {cs : List Char} {s r : List UInt8} (h : Spells cs s r) :
    readText s = .ok (String.ofList cs, r) := by
  simp only [readText, unescape_of_spells h, bind, Except.bind, pure, Except.pure, Utf8.decode_encode]

/-- A string is passed over up to its closing quote. -/
theorem skipText_of_spells {cs : List Char} {s r : List UInt8} (h : Spells cs s r) : skipText s = .ok r := by
  induction h with
  | close => rw [skipText, if_pos rfl]
  | cons h _ ih => rw [skipText_of_spelled h, ih]

end LinkedSelect.Json
