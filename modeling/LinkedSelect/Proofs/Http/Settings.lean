import Mathlib.Data.List.Nodup
import LinkedSelect.Http.Server
import LinkedSelect.Proofs.Text.Utf8

/-!
# Which settings build a server, and which header fields it sends

* `Settings.faults` lists all that is wrong with some settings, each rule on its own: the base URL, the cookie, the
  header fields in turn, and the certificates. To build a server from them gives the first of these faults, and if
  there is none it gives a server (`Settings.build_eq`).
* Header names are the same in any case of their letters. Among the header fields of the server each name has one
  place (`Headers.Tidy`), which the last value set for it takes (`Headers.get?_setAll`), so a configured field goes
  before the cookie and before the fields that are always there (`Settings.field?`).
* `Settings.first_fault_or_last_values` puts both together.
-/

namespace LinkedSelect.Http

/-! ## What header names and values are -/

/-- A name with its letters in lower case. -/
def lowerCase (name : String) : String :=
  String.ofList (name.toList.map Char.toLower)

/-- A letter or a digit of ASCII, or one of the marks of a header name. -/
def isTokenChar (c : Char) : Bool :=
  c.isAlphanum || c ∈ ['!', '"', '#', '$', '%', '&', '\'', '*', '+', '-', '.', '^', '_', '`', '|', '~']

/-- A header name: neither empty nor longer than a header name can be, and made of letters, digits and marks. -/
def IsHeaderName (name : String) : Prop :=
  name.toList ≠ [] ∧ name.toList.length ≤ 65535 ∧ ∀ c ∈ name.toList, isTokenChar c = true

/-- An octet that no header value has: a control that is no tab. -/
def isForbidden (b : UInt8) : Bool :=
  (b.toNat < 32 && b.toNat != 9) || b.toNat == 127

/-- A header value: no octet of it is forbidden. -/
def IsHeaderValue (value : String) : Prop :=
  ∀ b ∈ Utf8.encode value.toList, isForbidden b = false

-- the list is gone through, not all characters
instance (name : String) : Decidable (IsHeaderName name) :=
  have : Decidable (∀ c ∈ name.toList, isTokenChar c = true) := List.decidableBAll _ _
  inferInstanceAs (Decidable (_ ∧ _ ∧ _))

instance (value : String) : Decidable (IsHeaderValue value) :=
  List.decidableBAll _ _

theorem isValueOctet_eq (b : UInt8) : isValueOctet b = !isForbidden b := by
  rw [Bool.eq_iff_iff]
  simp only [isValueOctet, isForbidden, Bool.or_eq_true, Bool.and_eq_true, decide_eq_true_eq, bne_iff_ne, beq_iff_eq,
    Bool.not_eq_true', Bool.or_eq_false_iff, Bool.and_eq_false_iff, decide_eq_false_iff_not, beq_eq_false_iff_ne,
    bne_eq_false_iff_eq]
  omega

theorem headerValue?_eq (value : String) : headerValue? value = if IsHeaderValue value then some value else none := by
  have h : (Utf8.encode value.toList).all isValueOctet = true ↔ IsHeaderValue value := by
    simp [IsHeaderValue, isValueOctet_eq]
  rw [headerValue?]
  simp only [h]

/-- Header names are ASCII. -/
theorem toNat_lt_of_isTokenChar {c : Char} (h : isTokenChar c = true) : c.toNat < 128 := by
  have marks : ['!', '"', '#', '$', '%', '&', '\'', '*', '+', '-', '.', '^', '_', '`', '|', '~'].all
      (·.toNat < 128) = true := by decide
  rw [isTokenChar, Bool.or_eq_true, decide_eq_true_eq] at h
  rcases h with h | h
  · have hz : 'Z'.val.toNat = 90 ∧ 'z'.val.toNat = 122 ∧ '9'.val.toNat = 57 := ⟨rfl, rfl, rfl⟩
    delta Char.isAlphanum Char.isAlpha Char.isUpper Char.isLower Char.isDigit at h
    simp only [Bool.or_eq_true, Bool.and_eq_true, decide_eq_true_eq, UInt32.le_iff_toNat_le, ge_iff_le] at h
    rw [Char.toNat]
    omega
  · exact of_decide_eq_true (List.all_eq_true.mp marks c h)

/-- The octets of a character belong to a name if the character does. -/
theorem all_isNameOctet (c : Char) : (String.utf8EncodeChar c).all isNameOctet = isTokenChar c := by
  rcases Utf8.encodeChar_cases c with ⟨hc, he⟩ | ⟨hc, he⟩
  · have ascii : ∀ n ∈ List.range 128, isNameOctet (UInt8.ofNat n) = isTokenChar (Char.ofNat n) := by decide +kernel
    rw [he, List.all_cons, List.all_nil, Bool.and_true, ascii c.toNat (List.mem_range.mpr hc), Char.ofNat_toNat]
  · have high : ∀ n ∈ List.range' 128 128, isNameOctet (UInt8.ofNat n) = false := by decide +kernel
    have other : isTokenChar c = false := Bool.eq_false_iff.mpr fun h => by
      have := toNat_lt_of_isTokenChar h
      omega
    rw [other]
    cases ho : String.utf8EncodeChar c with
    | nil =>
      have := congrArg List.length ho
      rw [String.length_utf8EncodeChar] at this
      exact absurd this (Nat.ne_of_gt c.utf8Size_pos)
    | cons b rest =>
      have hb := he b (ho ▸ List.mem_cons_self)
      have hlt := b.toNat_lt
      have := high b.toNat (by rw [List.mem_range'_1]; omega)
      rw [UInt8.ofNat_toNat] at this
      rw [List.all_cons, this, Bool.false_and]

/-- A name has as many octets as characters. -/
theorem length_encode_of_isTokenChar {cs : List Char} (h : ∀ c ∈ cs, isTokenChar c = true) :
    (Utf8.encode cs).length = cs.length := by
  induction cs with
  | nil => rfl
  | cons c cs ih =>
    rw [List.forall_mem_cons] at h
    rcases Utf8.encodeChar_cases c with ⟨-, he⟩ | ⟨hc, -⟩
    · rw [Utf8.encode, List.flatMap_cons, he, List.length_append, List.length_singleton, List.length_cons,
        Nat.add_comm]
      exact congrArg (· + 1) (ih h.2)
    · exact absurd (toNat_lt_of_isTokenChar h.1) (Nat.not_lt.mpr hc)

theorem headerName?_eq (name : String) :
    headerName? name = if IsHeaderName name then some (lowerCase name) else none := by
  have all : (Utf8.encode name.toList).all isNameOctet = true ↔ ∀ c ∈ name.toList, isTokenChar c = true := by
    rw [Utf8.encode, List.all_flatMap, List.all_eq_true]
    simp only [all_isNameOctet]
  have h : (Utf8.encode name.toList ≠ [] ∧ (Utf8.encode name.toList).length ≤ 65535 ∧
      (Utf8.encode name.toList).all isNameOctet = true) ↔ IsHeaderName name := by
    rw [all]
    constructor
    · rintro ⟨hne, hle, htoken⟩
      rw [length_encode_of_isTokenChar htoken] at hle
      exact ⟨fun he => hne (by rw [he]; rfl), hle, htoken⟩
    · rintro ⟨hne, hle, htoken⟩
      have hlen := length_encode_of_isTokenChar htoken
      refine ⟨fun he => hne ?_, by rw [hlen]; exact hle, htoken⟩
      rw [he] at hlen
      exact List.eq_nil_of_length_eq_zero hlen.symm
  rw [headerName?]
  simp only [h, lowerCase]

/-! ## Header fields with one place for each name -/

/-- A letter in lower case stays as it is. -/
theorem toLower_toLower (c : Char) : c.toLower.toLower = c.toLower := by
  have small : ('a'.val - 'A'.val).toNat = 32 := by decide
  have first : 'A'.val.toNat = 65 := by decide
  have last : 'Z'.val.toNat = 90 := by decide
  unfold Char.toLower
  split
  · next hc =>
    refine dif_neg fun h => ?_
    simp only [ge_iff_le, UInt32.le_iff_toNat_le, UInt32.toNat_add, small, first, last] at hc h
    omega
  · rfl

/-- A name in lower case stays as it is. -/
theorem lowerCase_lowerCase (name : String) : lowerCase (lowerCase name) = lowerCase name := by
  have letters : Char.toLower ∘ Char.toLower = Char.toLower := funext toLower_toLower
  rw [lowerCase, lowerCase, String.toList_ofList, List.map_map, letters]

namespace Headers

variable {h : Headers}

/-- Names stand in lower case, and each has one place. -/
structure Tidy (h : Headers) : Prop where
  lower : ∀ p ∈ h.fields, lowerCase p.1 = p.1
  nodup : (h.fields.map (·.1)).Nodup

/-- The values of a name, in any case of its letters. -/
def values (h : Headers) (name : String) : List String :=
  (h.fields.filter fun p => lowerCase p.1 = lowerCase name).map (·.2)

/-- Gives names values in turn. -/
def setAll (h : Headers) (fields : List (String × String)) : Headers :=
  fields.foldl (fun h (name, value) => h.set (lowerCase name) value) h

theorem Tidy.set (ht : h.Tidy) {name : String} (hn : lowerCase name = name) (value : String) :
    (h.set name value).Tidy where
  lower p hp := by
    have keys := Assoc.keys_put name value h.fields
    have hp : p.1 ∈ (Assoc.put name value h.fields).map (·.1) := List.mem_map_of_mem hp
    have old : ∀ k ∈ h.fields.map (·.1), lowerCase k = k := List.forall_mem_map.mpr ht.lower
    rw [keys] at hp
    split at hp
    · exact old _ hp
    · rcases List.mem_append.mp hp with hp | hp
      · exact old _ hp
      · rw [List.mem_singleton.mp hp]
        exact hn
  nodup := by
    rw [Headers.set, Assoc.keys_put]
    split
    · exact ht.nodup
    · next hno =>
      refine List.nodup_append.mpr ⟨ht.nodup, List.nodup_singleton _, fun a ha b hb => ?_⟩
      rw [List.mem_singleton.mp hb]
      exact fun e => hno (e ▸ ha)

theorem Tidy.setAll (ht : h.Tidy) (fields : List (String × String)) : (h.setAll fields).Tidy := by
  induction fields generalizing h with
  | nil => exact ht
  | cons p fields ih => exact ih (ht.set (lowerCase_lowerCase p.1) p.2)

/-- Each name has the one value that is looked up, or none. -/
theorem Tidy.values_eq (ht : h.Tidy) (name : String) : h.values name = (h.get? (lowerCase name)).toList := by
  obtain ⟨fields⟩ := h
  obtain ⟨lower, nodup⟩ := ht
  rw [values, get?]
  induction fields with
  | nil => rfl
  | cons p fields ih =>
    obtain ⟨key, value⟩ := p
    rw [List.forall_mem_cons] at lower
    rw [List.map_cons, List.nodup_cons] at nodup
    have ih := ih lower.2 nodup.2
    have hkey : lowerCase key = key := lower.1
    by_cases hk : key = lowerCase name
    · -- no other field has this name
      have rest : fields.filter (fun p => lowerCase p.1 = lowerCase name) = [] := by
        refine List.filter_eq_nil_iff.mpr fun q hq hsame => nodup.1 ?_
        rw [decide_eq_true_eq, lower.2 q hq] at hsame
        exact List.mem_map.mpr ⟨q, hq, hsame.trans hk.symm⟩
      rw [List.filter_cons_of_pos (by simpa [hkey] using hk), List.map_cons, rest, hk, List.lookup_cons_self]
      rfl
    · have hb : (lowerCase name == key) = false := beq_eq_false_iff_ne.mpr fun e => hk e.symm
      rw [List.filter_cons_of_neg (by simpa [hkey] using hk), ih, List.lookup_cons, hb]

/-- The last value that a name is given stays. -/
theorem get?_setAll (h : Headers) (fields : List (String × String)) (key : String) :
    (h.setAll fields).get? key =
      ((fields.filter fun p => lowerCase p.1 = key).getLast?.map (·.2)).or (h.get? key) := by
  induction fields generalizing h with
  | nil => rfl
  | cons p fields ih =>
    rw [setAll, List.foldl_cons]
    refine (ih (h.set (lowerCase p.1) p.2)).trans ?_
    rw [get?_set]
    by_cases hp : lowerCase p.1 = key
    · rw [List.filter_cons_of_pos (by simpa using hp), if_pos hp.symm, List.getLast?_cons]
      cases (fields.filter fun p => lowerCase p.1 = key).getLast? <;> rfl
    · rw [List.filter_cons_of_neg (by simpa using hp), if_neg (fun e => hp e.symm)]

end Headers

/-! ## What is wrong with settings -/

/-- What is wrong with a base URL. -/
def addressFaults (base : String) : List FetchError :=
  match Url.parse base with
  | .ok _ => []
  | .error e => [.url e]

/-- What is wrong with a cookie. -/
def cookieFaults : Option String → List FetchError
  | none => []
  | some cookie => if IsHeaderValue cookie then [] else [.config .cookie]

/-- What is wrong with a configured header field: first of all its name, and then its value. -/
def headerFaults (field : String × String) : List FetchError :=
  (if IsHeaderName field.1 then [] else [.config (.headerName field.1)]) ++
    if IsHeaderValue field.2 then [] else [.config (.headerValue (lowerCase field.1))]

/-- What is wrong with the certificates. -/
def certificateFaults (texts : List String) : List FetchError :=
  if texts.all acceptsCertificates then [] else [.client .transport]

/-- The value if there is no fault, and else the first fault. -/
def judge {α : Type} (faults : List FetchError) (value : α) : Except FetchError α :=
  match faults with
  | [] => .ok value
  | e :: _ => .error e

theorem addCookie_eq (h : Headers) (cookie : Option String) :
    addCookie h cookie = judge (cookieFaults cookie) (cookie.elim h (h.set "cookie")) := by
  cases cookie with
  | none => rfl
  | some cookie =>
    rw [addCookie, headerValue?_eq, cookieFaults]
    by_cases hc : IsHeaderValue cookie
    · rw [if_pos hc, if_pos hc]
      rfl
    · rw [if_neg hc, if_neg hc]
      rfl

theorem addHeaders_eq (h : Headers) (fields : List (String × String)) :
    addHeaders h fields = judge (fields.flatMap headerFaults) (h.setAll fields) := by
  induction fields generalizing h with
  | nil => rfl
  | cons p fields ih =>
    rw [addHeaders, headerName?_eq, headerValue?_eq, List.flatMap_cons, headerFaults]
    by_cases hn : IsHeaderName p.1
    · by_cases hv : IsHeaderValue p.2
      · rw [if_pos hn, if_pos hv, if_pos hn, if_pos hv]
        exact ih _
      · rw [if_pos hn, if_neg hv, if_pos hn, if_neg hv]
        rfl
    · rw [if_neg hn, if_neg hn]
      rfl

namespace Settings

/-- All that is wrong with some settings and a base URL. -/
def faults (s : Settings) (base : String) : List FetchError :=
  addressFaults base ++ (cookieFaults s.cookie ++ (s.headers.flatMap headerFaults ++ certificateFaults s.certificates))

/-- The header fields that settings without faults give. -/
def headerFields (s : Settings) : Headers :=
  (s.cookie.elim standardHeaders (standardHeaders.set "cookie")).setAll s.headers

/-- Settings build a server, unless they have a fault. -/
theorem build_eq (s : Settings) {base : String} {u : Url} (hu : Url.parse base = .ok u) :
    s.build base = judge (s.faults base) { base := u, headers := s.headerFields, timeout := s.timeout, jar := {} } := by
  simp only [build, allHeaders, faults, addressFaults, headerFields, hu, addCookie_eq, addHeaders_eq, List.nil_append]
  cases cookieFaults s.cookie with
  | cons e _ => rfl
  | nil =>
    cases s.headers.flatMap headerFaults with
    | cons e _ => simp only [judge, List.nil_append, List.cons_append]
    | nil =>
      simp only [judge, List.nil_append, certificateFaults]
      split <;> rfl

/-- Settings with a fault are refused for the first. -/
theorem build_eq_error {s : Settings} {base : String} {e : FetchError} :
    s.build base = .error e ↔ (s.faults base).head? = some e := by
  cases hu : Url.parse base with
  | error err => simp [build, faults, addressFaults, hu]
  | ok u =>
    rw [build_eq s hu]
    cases s.faults base <;> simp [judge]

/-- The value of a name in any case of its letters: the last one configured, or else that of the cookie, or else one
that is always there. -/
def field? (s : Settings) (name : String) : Option String :=
  match (s.headers.filter fun p => lowerCase p.1 = lowerCase name).getLast? with
  | some (_, value) => some value
  | none =>
    if lowerCase name = "cookie" then s.cookie
    else if lowerCase name = "accept" then some "application/json"
    else if lowerCase name = "x-requested-with" then some "XMLHttpRequest"
    else none

theorem values_headerFields (s : Settings) (name : String) :
    s.headerFields.values name = (s.field? name).toList := by
  have standard : standardHeaders.Tidy := ⟨by decide +kernel, by decide +kernel⟩
  have tidy : (s.cookie.elim standardHeaders (standardHeaders.set "cookie")).Tidy := by
    cases s.cookie with
    | none => exact standard
    | some cookie => exact standard.set (by decide +kernel) cookie
  have own : (s.cookie.elim standardHeaders (standardHeaders.set "cookie")).get? (lowerCase name) =
      if lowerCase name = "cookie" then s.cookie
      else if lowerCase name = "accept" then some "application/json"
      else if lowerCase name = "x-requested-with" then some "XMLHttpRequest"
      else none := by
    have empty : Headers.get? {} (lowerCase name) = none := rfl
    cases s.cookie with
    | none =>
      simp only [Option.elim_none, standardHeaders, Headers.get?_set, empty]
      by_cases hc : lowerCase name = "cookie"
      · rw [hc]
        rfl
      · rw [if_neg hc]
    | some cookie => simp only [Option.elim_some, standardHeaders, Headers.get?_set, empty]
  rw [headerFields, (tidy.setAll s.headers).values_eq, Headers.get?_setAll, own, field?]
  cases (s.headers.filter fun p => lowerCase p.1 = lowerCase name).getLast? <;> rfl

/-- **Settings are refused for their first fault, and else each header name has its last value.** To build a server is
refused just for the first of the faults: that of the base URL, of the cookie, of the header fields in turn (the name
before its value), and of the certificates. An error in a header field says its name. If there is no fault, a server
is built for the base URL, and each name, in any case of its letters, has one value or none: the last that is
configured for it, or else that of the cookie, or else one that is always there. -/
theorem first_fault_or_last_values (s : Settings) (base : String) :
    (∀ e, s.build base = .error e ↔ (s.faults base).head? = some e) ∧
      (s.faults base = [] → ∃ server, s.build base = .ok server ∧ Url.parse base = .ok server.base ∧
        ∀ name, server.headers.values name = (s.field? name).toList) ∧
      ∀ name value, ∀ e ∈ headerFaults (name, value),
        e.message? = some ("Error Invalid header name '" ++ name ++ "'") ∨
          e.message? = some ("Error Invalid value for header '" ++ lowerCase name ++ "'") := by
  refine ⟨fun e => build_eq_error, fun hnone => ?_, fun name value e he => ?_⟩
  · cases hu : Url.parse base with
    | error err => simp [faults, addressFaults, hu] at hnone
    | ok u =>
      rw [build_eq s hu, hnone]
      exact ⟨_, rfl, rfl, s.values_headerFields⟩
  · rcases List.mem_append.mp he with he | he
    · split at he
      · cases he
      · rw [List.mem_singleton.mp he]
        exact .inl rfl
    · split at he
      · cases he
      · rw [List.mem_singleton.mp he]
        exact .inr rfl

/-- Settings whose header fields take the place of the cookie, of a field that is always there, and of each other. -/
def overriding : Settings where
  cookie := some "a=1"
  headers := [("Accept", "text/html"), ("COOKIE", "b=2"), ("X-Token", "1"), ("x-token", "2")]

theorem overriding_last_values :
    (∃ server, overriding.build "http://h" = .ok server ∧ server.headers.values "Cookie" = ["b=2"] ∧
      server.headers.values "accept" = ["text/html"] ∧ server.headers.values "X-TOKEN" = ["2"] ∧
      server.headers.values "x-requested-with" = ["XMLHttpRequest"] ∧ server.headers.values "host" = []) ∧
    { overriding with headers := overriding.headers ++ [("X-Token", "\n"), ("", "")] }.build "http://h" =
      .error (.config (.headerValue "x-token")) := by
  have sound : overriding.faults "http://h" = [] := by decide +kernel
  have faulty : ({ overriding with headers := overriding.headers ++ [("X-Token", "\n"), ("", "")] }.faults
      "http://h").head? = some (.config (.headerValue "x-token")) := by decide +kernel
  refine ⟨?_, (first_fault_or_last_values _ _).1 _ |>.mpr faulty⟩
  obtain ⟨server, hb, -, hvalues⟩ := (first_fault_or_last_values overriding "http://h").2.1 sound
  refine ⟨server, hb, ?_⟩
  simp only [hvalues]
  decide +kernel

end Settings

end LinkedSelect.Http
