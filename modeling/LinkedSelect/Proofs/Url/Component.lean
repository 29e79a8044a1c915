import LinkedSelect.Request
import LinkedSelect.Text.Split
import LinkedSelect.Proofs.Text.Utf8
import LinkedSelect.Proofs.Url.Ends

/-!
# The filter is a component of a query

A filter is made of characters that a query keeps as they are and that neither separate components nor end anything
(`isLiteral`). Behind the text of a query it is the last component of it (`Split.splitOn_append`).
-/

namespace LinkedSelect

/-! ## Characters that stand for themselves -/

/-- A letter, a digit, or one of `-`, `_`, `.`, `~`, `%` and `=`. -/
def isLiteral (c : Char) : Bool :=
  Percent.isUnreserved (UInt8.ofNat c.toNat) && c.toNat < 128 || c == '%' || c == '='

/-- The code of a literal character. -/
theorem toNat_of_isLiteral {c : Char} (h : isLiteral c = true) :
    c.toNat < 127 ∧ 36 < c.toNat ∧ c.toNat ≠ 38 ∧ c.toNat ≠ 39 ∧ c.toNat ≠ 60 ∧ c.toNat ≠ 62 ∧ c.toNat ≠ 63 := by
  simp only [isLiteral, Percent.isUnreserved, Bool.or_eq_true, Bool.and_eq_true, decide_eq_true_eq,
    beq_iff_eq] at h
  rcases h with (⟨h, hc⟩ | rfl) | rfl
  · rw [Utf8.toNat_ofNat (by omega)] at h
    omega
  · decide
  · decide

/-- An octet of a percent-encoded text is written in literal characters. -/
theorem isLiteral_of_octet {b : UInt8} {c : Char}
    (h : c ∈ (if Percent.isUnreserved b then [Char.ofNat b.toNat] else Percent.escape b)) : isLiteral c = true := by
  have digit {m : Nat} (hm : m < 16) : isLiteral (Hex.upper m) = true := by
    have all : ∀ m ∈ List.range 16, isLiteral (Hex.upper m) = true := by decide
    exact all m (List.mem_range.mpr hm)
  have hb := b.toNat_lt
  split at h
  · next hu =>
    rw [List.mem_singleton] at h
    have hsmall : b.toNat < 128 := by
      simp only [Percent.isUnreserved, Bool.or_eq_true, Bool.and_eq_true, decide_eq_true_eq, beq_iff_eq] at hu
      omega
    have hv : b.toNat.isValidChar := .inl (by omega)
    have hc : c.toNat = b.toNat := by
      rw [h, Char.ofNat, dif_pos hv]
      rfl
    simp [isLiteral, hc, hu, hsmall]
  · simp only [Percent.escape, List.mem_cons, List.not_mem_nil, or_false] at h
    rcases h with rfl | rfl | rfl
    · rfl
    · exact digit (by omega)
    · exact digit (by omega)

/-- The characters of a percent-encoded text are literal. -/
theorem isLiteral_of_mem_encode {s : String} {c : Char} (h : c ∈ (Percent.encode s).toList) : isLiteral c = true := by
  simp only [Percent.encode, String.toList_ofList, Percent.encodeWith, List.mem_flatMap] at h
  obtain ⟨b, -, hb⟩ := h
  exact isLiteral_of_octet hb

namespace Url

theorem trimEnd_of_literal {cs : List Char} (hne : cs ≠ []) (h : ∀ c ∈ cs, isLiteral c = true) (x : List Char) :
    trimEnd (x ++ cs) = x ++ cs := by
  obtain ⟨ds, d, rfl⟩ := List.eq_nil_or_concat cs |>.resolve_left hne
  have hd := toNat_of_isLiteral (h d (by simp))
  have stop : ¬decide (d.toNat ≤ 32) = true := by
    rw [decide_eq_true_eq]
    omega
  rw [trimEnd, List.concat_eq_append, ← List.append_assoc, List.reverse_append, List.reverse_singleton,
    List.singleton_append, List.dropWhile_cons_of_neg (p := fun c : Char => decide (c.toNat ≤ 32)) stop,
    List.reverse_cons, List.reverse_reverse]

theorem strip_of_literal {cs : List Char} (h : ∀ c ∈ cs, isLiteral c = true) : strip cs = cs := by
  refine List.filter_eq_self.mpr fun c hc => ?_
  have hl := toNat_of_isLiteral (h c hc)
  simp only [isIgnored, Bool.not_eq_true', Bool.or_eq_false_iff, beq_eq_false_iff_ne]
  refine ⟨⟨?_, ?_⟩, ?_⟩ <;> rintro rfl <;> exact absurd hl (by decide)

theorem strip_append (cs ds : List Char) : strip (cs ++ ds) = strip cs ++ strip ds :=
  List.filter_append cs ds

end Url

namespace Url.Encoding

theorem encode_append (part : Component) (cs ds : List Char) :
    encode part (cs ++ ds) = encode part cs ++ encode part ds := by
  simp only [encode, Percent.encodeWith, Utf8.encode, List.flatMap_append]

/-- A query keeps a character that is an octet of its own. -/
theorem encode_singleton {part : Component} {c : Char} (hc : c.toNat < 128)
    (h : isPlain part (UInt8.ofNat c.toNat) = true) : encode part [c] = [c] := by
  have he : String.utf8EncodeChar c = [UInt8.ofNat c.toNat] := by
    rcases Utf8.encodeChar_cases c with ⟨-, he⟩ | ⟨hn, -⟩
    · exact he
    · omega
  have hn : (UInt8.ofNat c.toNat).toNat = c.toNat := Utf8.toNat_ofNat (by omega)
  simp [encode, Percent.encodeWith, Utf8.encode, he, h, hn]

/-- A query keeps literal characters. -/
theorem encode_literal {cs : List Char} (h : ∀ c ∈ cs, isLiteral c = true) : encode .domainQuery cs = cs := by
  induction cs with
  | nil => rfl
  | cons c cs ih =>
    obtain ⟨hhigh, hlow, -, h₁, h₂, h₃, -⟩ := toNat_of_isLiteral (h c List.mem_cons_self)
    have hn : (UInt8.ofNat c.toNat).toNat = c.toNat := Utf8.toNat_ofNat (by omega)
    have plain : isPlain .domainQuery (UInt8.ofNat c.toNat) = true := by
      simp [isPlain, Component.escaped, hn]
      omega
    rw [← List.singleton_append, encode_append, encode_singleton (by omega) plain,
      ih fun d hd => h d (List.mem_cons_of_mem _ hd)]

end Url.Encoding

/-! ## Components -/

namespace Split

/-- Without a separator there is one part. -/
theorem splitOn_of_not_mem {p : Char → Bool} {cs : List Char} (h : ∀ c ∈ cs, p c = false) :
    splitOn p cs = [cs] := by
  induction cs with
  | nil => rfl
  | cons c cs ih =>
    rw [splitOn, ih fun d hd => h d (List.mem_cons_of_mem _ hd)]
    simp [h c List.mem_cons_self]

/-- What follows the last separator is the last part. -/
theorem splitOn_append {p : Char → Bool} (sep : Char) (hs : p sep = true) {cs : List Char}
    (h : ∀ c ∈ cs, p c = false) (ds : List Char) : splitOn p (ds ++ sep :: cs) = splitOn p ds ++ [cs] := by
  induction ds with
  | nil => simp [splitOn, splitOn_of_not_mem h, hs]
  | cons d ds ih =>
    rw [List.cons_append, splitOn, ih, splitOn]
    cases hp : splitOn p ds with
    | nil => exact absurd hp (splitOn_ne_nil p _)
    | cons part parts =>
      simp only [List.cons_append]
      split <;> rfl

end Split

/-! ## Filters -/

/-- The component that a request adds to the query of its endpoint. -/
def Request.filter (r : Request) : String :=
  r.param ++ "=" ++ Percent.encode r.value

theorem Request.isLiteral_of_mem_filter {r : Request} (hp : ∀ c ∈ r.param.toList, isLiteral c = true) {c : Char}
    (h : c ∈ r.filter.toList) : isLiteral c = true := by
  simp only [filter, String.toList_append, List.mem_append] at h
  rcases h with (h | h) | h
  · exact hp c h
  · rw [show c = '=' by simpa using h]
    rfl
  · exact isLiteral_of_mem_encode h

theorem Request.target_toList (r : Request) :
    r.target.toList = r.endpoint.toList ++ separator r.endpoint :: r.filter.toList := by
  simp [target, filter]

end LinkedSelect
