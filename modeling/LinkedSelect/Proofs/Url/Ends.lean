import LinkedSelect.Url.Parse

/-!
# What stands behind a path does not change what stands in front

The first question mark or number sign of a text ends the path. Whatever is read in front of it, the rest of the text
comes to nothing but the query and the fragment (`attach`): this holds of paths (`withPath_of_end`), of authorities
(`authority_of_end`), and of whole texts unless they are files (`parseWith_of_end`).
-/

namespace LinkedSelect.Url

/-! ## The character that ends a path -/

/-- No character ends a path. -/
def Unended (cs : List Char) : Prop :=
  ∀ x ∈ cs, isPathEnd x = false

section

variable {α : Type} {p : α → Bool} {c : α}

/-- Nothing is taken behind an element that stops. -/
theorem takeWhile_append_stop (hc : p c = false) (y e : List α) : (y ++ c :: e).takeWhile p = y.takeWhile p := by
  induction y with
  | nil => simp [hc]
  | cons x y ih =>
    rw [List.cons_append, List.takeWhile_cons, List.takeWhile_cons, ih]

/-- Nothing is dropped behind an element that stops. -/
theorem dropWhile_append_stop (hc : p c = false) (y e : List α) :
    (y ++ c :: e).dropWhile p = y.dropWhile p ++ c :: e := by
  induction y with
  | nil => simp [hc]
  | cons x y ih =>
    rw [List.cons_append, List.dropWhile_cons, List.dropWhile_cons, ih]
    split <;> rfl

end

section

variable {c : Char} (hc : isPathEnd c = true)

include hc

theorem eq_of_isPathEnd : c = '?' ∨ c = '#' := by
  simpa [isPathEnd] using hc

theorem isIgnored_of_isPathEnd : isIgnored c = false := by
  rcases eq_of_isPathEnd hc with rfl | rfl <;> rfl

theorem isAnySlash_of_isPathEnd : isAnySlash c = false := by
  rcases eq_of_isPathEnd hc with rfl | rfl <;> rfl

theorem not_blank_of_isPathEnd : decide (c.toNat ≤ 32) = false := by
  rcases eq_of_isPathEnd hc with rfl | rfl <;> rfl

theorem strip_of_end (y e : List Char) : strip (y ++ c :: e) = strip y ++ c :: strip e := by
  rw [strip, List.filter_append, List.filter_cons_of_pos (by rw [isIgnored_of_isPathEnd hc]; rfl)]
  rfl

end

theorem strip_strip (cs : List Char) : strip (strip cs) = strip cs := by
  rw [strip, strip, List.filter_filter]
  simp

/-- The first character that ends the path. -/
theorem exists_end {cs : List Char} {x : Char} (hx : x ∈ cs) (he : isPathEnd x = true) :
    ∃ y c e, cs = y ++ c :: e ∧ Unended y ∧ isPathEnd c = true := by
  induction cs with
  | nil => cases hx
  | cons d cs ih =>
    by_cases hd : isPathEnd d = true
    · exact ⟨[], d, cs, rfl, List.forall_mem_nil _, hd⟩
    · rcases List.mem_cons.mp hx with rfl | hx
      · exact absurd he hd
      · obtain ⟨y, c, e, rfl, hy, hc⟩ := ih hx
        refine ⟨d :: y, c, e, rfl, ?_, hc⟩
        exact List.forall_mem_cons.mpr ⟨Bool.not_eq_true _ ▸ hd, hy⟩

theorem Unended.mono {y z : List Char} (hy : Unended y) (h : z ⊆ y) : Unended z :=
  fun x hx => hy x (h hx)

theorem Unended.strip {y : List Char} (hy : Unended y) : Unended (Url.strip y) :=
  hy.mono fun _ hx => (List.mem_filter.mp hx).1

/-! ## Query and fragment -/

/-- The query and the fragment that a text from its path's end on gives to a URL; a fragment leaves the query. -/
def attach (c : Char) (e : List Char) (u : Url) : Url :=
  let parts := tail (isSpecial u.scheme) (strip (c :: e))
  { u with query := if c = '?' then parts.1 else u.query, fragment := parts.2 }

theorem attach_strip {c : Char} (hc : isPathEnd c = true) (e : List Char) : attach c (strip e) = attach c e := by
  have twice := strip_of_end hc [] (strip e)
  have once := strip_of_end hc [] e
  simp only [List.nil_append] at twice once
  funext u
  rw [attach, attach, twice, once, strip_strip]

/-- The query that is attached behind a question mark. -/
theorem attach_query (e : List Char) (u : Url) : (attach '?' e u).query =
    some (String.ofList (Encoding.encode (if isSpecial u.scheme then .domainQuery else .query)
      ((strip e).takeWhile (· != '#')))) := by
  have hs := strip_of_end (c := '?') rfl [] e
  simp only [List.nil_append] at hs
  simp only [attach, hs, if_true]
  rfl

section

variable {y : List Char} {c : Char} (hy : Unended y) (hc : isPathEnd c = true)

include hy hc

theorem takeWhile_of_end (e : List Char) : (y ++ c :: e).takeWhile (fun c => !isPathEnd c) = y := by
  rw [List.takeWhile_append_of_pos fun x hx => by rw [hy x hx]; rfl, List.takeWhile_cons_of_neg (by simp [hc]),
    List.append_nil]

theorem dropWhile_of_end (e : List Char) : (y ++ c :: e).dropWhile (fun c => !isPathEnd c) = c :: e := by
  rw [List.dropWhile_append_of_pos fun x hx => by rw [hy x hx]; rfl, List.dropWhile_cons_of_neg (by simp [hc])]

theorem withPath_of_end (u : Url) (path : List String) (e : List Char) : withPath u path (y ++ c :: e) =
    attach c e { u with path := .rooted (addPath u.scheme path y), query := none } := by
  rw [withPath, takeWhile_of_end hy hc, dropWhile_of_end hy hc, attach]
  rcases eq_of_isPathEnd hc with rfl | rfl <;> rfl

theorem addRooted_of_end (u : Url) (e : List Char) : addRooted u (y ++ c :: e) =
    attach c e { u with path := .rooted (rootedSegments u.scheme y), query := none } := by
  rw [addRooted, takeWhile_of_end hy hc, dropWhile_of_end hy hc, attach]
  rcases eq_of_isPathEnd hc with rfl | rfl <;> rfl

theorem relative_of_end (base : Url) :
    ∃ u : Url, u.scheme = base.scheme ∧ ∀ e, relative base (y ++ c :: e) = attach c e u := by
  cases y with
  | nil =>
    refine ⟨base, rfl, fun e => ?_⟩
    rcases eq_of_isPathEnd hc with rfl | rfl <;> rfl
  | cons x y =>
    refine ⟨{ base with path := .rooted (addPath base.scheme (withoutLast base) (x :: y)), query := none }, rfl,
      fun e => ?_⟩
    rw [← withPath_of_end hy hc base (withoutLast base) e, List.cons_append, relative.eq_def]
    have hx := hy x List.mem_cons_self
    split
    · next h => cases h
    · next h => cases h; cases hx
    · next h => cases h; cases hx
    · rfl

end

/-! ## Whatever is read in front of the end -/

/-- The outcome of reading is settled in front of the end of the path: the rest is only attached to it. -/
def SettledAt (c : Char) (read : List Char → Except ParseError Url) : Prop :=
  ∃ settled : Except ParseError Url, ∀ e, read e = settled.map (attach c e)

section

variable {c : Char}

theorem SettledAt.error (err : ParseError) : SettledAt c fun _ => .error err :=
  ⟨.error err, fun _ => rfl⟩

theorem SettledAt.ok {read : List Char → Url} {u : Url} (h : ∀ e, read e = attach c e u) :
    SettledAt c fun e => .ok (read e) :=
  ⟨.ok u, fun e => congrArg Except.ok (h e)⟩

theorem SettledAt.ite {P : Prop} [Decidable P] {f g : List Char → Except ParseError Url} (hf : SettledAt c f)
    (hg : SettledAt c g) : SettledAt c fun e => if P then f e else g e := by
  by_cases h : P
  · simpa only [if_pos h] using hf
  · simpa only [if_neg h] using hg

end

theorem cutAtLast?_subset (mark : Char) {cs : List Char} :
    ((cutAtLast? mark cs).getD ([], cs)).2 ⊆ cs := by
  unfold cutAtLast?
  split
  · intro x hx
    simp only [Option.getD_some, List.mem_reverse] at hx
    exact List.mem_reverse.mp (List.takeWhile_subset _ hx)
  · exact List.Subset.refl cs

section

variable {y : List Char} {c : Char} (hy : Unended y) (hc : isPathEnd c = true)

include hy hc

theorem authority_of_end (scheme : String) : SettledAt c fun e => authority scheme (y ++ c :: e) := by
  have stop : (!(isSlash (isSpecial scheme) c || isPathEnd c)) = false := by rw [hc, Bool.or_true]; rfl
  have taken := takeWhile_append_stop (p := fun c => !(isSlash (isSpecial scheme) c || isPathEnd c)) stop y
  have left := dropWhile_append_stop (p := fun c => !(isSlash (isSpecial scheme) c || isPathEnd c)) stop y
  have behind {e : List Char} (z : List Char) : (z ++ c :: e ≠ []) = True := by simp
  have hrest := hy.mono (List.dropWhile_subset fun c => !(isSlash (isSpecial scheme) c || isPathEnd c))
  have haddress := (hy.mono (List.takeWhile_subset fun c => !(isSlash (isSpecial scheme) c || isPathEnd c))).mono
    (cutAtLast?_subset '@')
  simp only [authority, taken, left, behind]
  refine .ite (.error _) ?_
  -- neither the host nor the port depends on what stands behind
  generalize (cutAtLast? '@' _).getD _ = cut at haddress ⊢
  generalize (if isSpecial scheme = true then _ else _ : Except ParseError Host) = host
  generalize port? scheme _ = port
  cases host with
  | error err => exact .error err
  | ok host =>
    cases port with
    | error err => exact .error err
    | ok port =>
      simp only [← List.append_assoc]
      refine .ok (addRooted_of_end (fun x hx => ?_) hc _)
      rcases List.mem_append.mp hx with hx | hx
      · exact haddress x (List.mem_of_mem_drop (List.mem_of_mem_drop (List.dropWhile_subset _ hx)))
      · exact hrest x hx

end

/-- What has no scheme of its own begins with two slashes, or with one, or with none. -/
theorem joinRooted_cons (base : Url) (x : Char) (cs : List Char) :
    joinRooted base (x :: cs) =
      if isAnySlash x then
        if cs.head?.any isAnySlash then
          authority base.scheme (if x = '/' ∧ cs.head? = some '/' then cs.drop 1 else cs.dropWhile isAnySlash)
        else .ok (withPath base [] cs)
      else .ok (relative base (x :: cs)) := by
  rw [joinRooted.eq_def]
  split
  · next h =>
    cases h
    rfl
  · next rest hne h =>
    cases h
    have other : ¬(x = '/' ∧ cs.head? = some '/') := by
      rintro ⟨rfl, hd⟩
      obtain ⟨rest, rfl⟩ := List.head?_eq_some_iff.mp hd
      exact hne rest rfl rfl
    rw [if_neg other]
  · next h => cases h

section

variable {y : List Char} {c : Char} (hy : Unended y) (hc : isPathEnd c = true)

include hy hc

theorem joinRooted_of_end (base : Url) : SettledAt c fun e => joinRooted base (y ++ c :: e) := by
  have hslash := isAnySlash_of_isPathEnd hc
  obtain ⟨u, -, related⟩ := relative_of_end hy hc base
  match y, hy with
  | [], _ =>
    simp only [List.nil_append] at related ⊢
    simp only [joinRooted_cons, hslash, Bool.false_eq_true, if_false]
    exact .ok related
  | [x], _ =>
    simp only [List.cons_append, List.nil_append] at related ⊢
    simp only [joinRooted_cons, List.head?_cons, Option.any_some, hslash, Bool.false_eq_true, if_false]
    exact .ite (.ok (withPath_of_end (y := []) (fun _ h => by cases h) hc base [])) (.ok related)
  | x :: w :: z, hy =>
    have hz : Unended z := hy.mono fun a ha => List.mem_cons_of_mem _ (List.mem_cons_of_mem _ ha)
    have hwz : Unended (w :: z) := hy.mono fun a ha => List.mem_cons_of_mem _ ha
    have left := dropWhile_append_stop hslash (w :: z)
    simp only [List.cons_append] at related left ⊢
    simp only [joinRooted_cons, List.head?_cons, Option.any_some, List.drop_succ_cons, List.drop_zero, left]
    refine .ite (.ite ?_ (.ok (withPath_of_end hwz hc base []))) (.ok related)
    by_cases hx : x = '/' ∧ some w = some '/'
    · simp only [if_pos hx]
      exact authority_of_end hz hc base.scheme
    · simp only [if_neg hx]
      exact authority_of_end (hwz.mono (List.dropWhile_subset _)) hc base.scheme

/-- Behind a scheme with domains come slashes and an authority, or what is relative to a base of that scheme. -/
theorem afterScheme_of_end (base : Option Url) {scheme : String} (hs : isSpecial scheme = true) :
    SettledAt c fun e => afterScheme base scheme (y ++ c :: e) := by
  have taken := takeWhile_append_stop (isAnySlash_of_isPathEnd hc) y
  have left (e : List Char) : (y ++ c :: e).drop (y.takeWhile isAnySlash).length =
      y.drop (y.takeWhile isAnySlash).length ++ c :: e :=
    List.drop_append_of_le_length (List.takeWhile_prefix isAnySlash).length_le
  simp only [afterScheme, hs, if_true, taken, left]
  generalize base.filter _ = base
  cases base with
  | none => exact authority_of_end (hy.mono (List.drop_subset _ _)) hc scheme
  | some base => exact joinRooted_of_end hy hc base

/-- A scheme ends in front of the end of the path, or there is none. -/
theorem scheme?_of_end : (∀ e, scheme? (y ++ c :: e) = none) ∨
    ∃ scheme z, Unended z ∧ ∀ e, scheme? (y ++ c :: e) = some (scheme, z ++ c :: e) := by
  have hchar : isSchemeChar c = false := by rcases eq_of_isPathEnd hc with rfl | rfl <;> rfl
  cases y with
  | nil =>
    refine .inl fun e => ?_
    have halpha : c.isAlpha = false := by rcases eq_of_isPathEnd hc with rfl | rfl <;> rfl
    simp [scheme?, halpha]
  | cons x y =>
    have taken := takeWhile_append_stop hchar (x :: y)
    have left := dropWhile_append_stop hchar (x :: y)
    simp only [List.cons_append] at taken left
    simp only [List.cons_append, scheme?, taken, left]
    by_cases hx : x.isAlpha = true
    · have hleft : Unended ((x :: y).dropWhile isSchemeChar) := hy.mono (List.dropWhile_subset _)
      simp only [hx, if_true]
      cases hd : (x :: y).dropWhile isSchemeChar with
      | nil =>
        refine .inl fun e => ?_
        rw [List.nil_append]
        split
        · next h => cases h; cases hc
        · rfl
      | cons w z =>
        rw [hd] at hleft
        by_cases hw : w = ':'
        · subst hw
          exact .inr ⟨_, z, hleft.mono fun a ha => List.mem_cons_of_mem _ ha, fun e => rfl⟩
        · refine .inl fun e => ?_
          rw [List.cons_append]
          split
          · next h => cases h; exact absurd rfl hw
          · rfl
    · simp [hx]

end

/-! ## Schemes -/

theorem authority_scheme {scheme : String} {cs : List Char} {u : Url} (h : authority scheme cs = .ok u) :
    u.scheme = scheme := by
  simp only [authority] at h
  split at h
  · cases h
  · split at h
    · cases h
    · split at h <;> cases h
      rfl

theorem otherScheme_scheme {scheme : String} {cs : List Char} {u : Url} (h : otherScheme scheme cs = .ok u) :
    u.scheme = scheme := by
  unfold otherScheme at h
  split at h
  · exact authority_scheme h
  · cases h
    rfl
  · cases h
    rfl

theorem relative_scheme (base : Url) (cs : List Char) : (relative base cs).scheme = base.scheme := by
  unfold relative
  split <;> rfl

theorem trimFront_scheme (u : Url) : (trimFront u).scheme = u.scheme := by
  unfold trimFront
  split
  · split <;> rfl
  · rfl

theorem dropHostOfDrive_scheme (cs : List Char) (u : Url) : (dropHostOfDrive cs u).scheme = u.scheme := by
  simp only [dropHostOfDrive]
  split
  · split <;> rfl
  · rfl

theorem fileWithoutHost_scheme {base : Option Url} (hb : ∀ b, base = some b → b.scheme = "file") (cs : List Char) :
    (fileWithoutHost base cs).scheme = "file" := by
  unfold fileWithoutHost
  split
  · rw [relative_scheme, hb _ rfl]
  · rfl
  · rfl
  · split
    · split <;> rfl
    · split
      · rfl
      · rw [relative_scheme, hb _ rfl]

theorem fileBehindSlashes_scheme {cs : List Char} {u : Url} (h : fileBehindSlashes cs = .ok u) :
    u.scheme = "file" := by
  simp only [fileBehindSlashes] at h
  split at h
  · cases h
    rfl
  · generalize fileHost _ = host at h
    cases host with
    | error err => cases h
    | ok host =>
      cases h
      dsimp only
      split
      · rfl
      · rw [dropHostOfDrive_scheme]
        rfl

/-- What is read as a file is one. -/
theorem file_scheme {base : Option Url} (hb : ∀ b, base = some b → b.scheme = "file") {cs : List Char} {u : Url}
    (h : file base cs = .ok u) : u.scheme = "file" := by
  have settled {read : Except ParseError Url} (hr : ∀ v, read = .ok v → v.scheme = "file")
      (h : read.map trimFront = .ok u) : u.scheme = "file" := by
    cases read with
    | error err => cases h
    | ok v =>
      cases h
      rw [trimFront_scheme]
      exact hr v rfl
  have bare (cs : List Char) (v : Url) (hv : .ok (fileWithoutHost base cs) = (.ok v : Except ParseError Url)) :
      v.scheme = "file" := by
    cases hv
    exact fileWithoutHost_scheme hb cs
  refine settled (fun v hv => ?_) h
  split at hv
  · split at hv
    · exact fileBehindSlashes_scheme hv
    · exact bare _ v hv
  · exact bare _ v hv

theorem isSpecial_of_isSentFor {scheme : String} (h : isSentFor scheme = true) : isSpecial scheme = true := by
  simp only [isSentFor, Bool.or_eq_true, beq_iff_eq] at h
  rcases h with rfl | rfl <;> rfl

/-! ## Whole texts -/

/-- The text without controls and spaces behind it. -/
def trimEnd (cs : List Char) : List Char :=
  (cs.reverse.dropWhile fun c => c.toNat ≤ 32).reverse

section

variable {y : List Char} {c : Char} (hy : Unended y) (hc : isPathEnd c = true)

include hc

theorem trimEnd_of_end (y e : List Char) : trimEnd (y ++ c :: e) = y ++ c :: trimEnd e := by
  have hblank := not_blank_of_isPathEnd hc
  rw [trimEnd, List.reverse_append, List.reverse_cons, List.append_assoc, List.singleton_append,
    dropWhile_append_stop (p := fun c : Char => decide (c.toNat ≤ 32)) hblank, List.reverse_append, List.reverse_cons,
    List.reverse_reverse, List.append_assoc, List.singleton_append, trimEnd]

theorem trim_of_end (e : List Char) :
    trim (y ++ c :: e) = y.dropWhile (fun c => c.toNat ≤ 32) ++ c :: trimEnd e := by
  have hblank := not_blank_of_isPathEnd hc
  rw [← trimEnd_of_end hc, ← dropWhile_append_stop (p := fun c : Char => decide (c.toNat ≤ 32)) hblank]
  rfl

include hy

/-- Reading a text is settled in front of the end of the path, unless it is not one that is sent for. -/
theorem parseWith_of_end (base : Option Url) :
    (∀ e u, parseWith base (String.ofList (y ++ c :: e)) = .ok u → isSentFor u.scheme = false) ∨
      ∃ settled : Except ParseError Url, ∀ e,
        parseWith base (String.ofList (y ++ c :: e)) = settled.map (attach c (trimEnd e)) := by
  have hy' : Unended (y.dropWhile fun c => c.toNat ≤ 32) := hy.mono (List.dropWhile_subset _)
  have settled {read : List Char → Except ParseError Url} (h : SettledAt c read) :
      ∃ settled : Except ParseError Url, ∀ e, read (strip (trimEnd e)) = settled.map (attach c (trimEnd e)) := by
    obtain ⟨settled, h⟩ := h
    exact ⟨settled, fun e => by rw [h, attach_strip hc]⟩
  simp only [parseWith, String.toList_ofList, trim_of_end hc, strip_of_end hc]
  generalize (y.dropWhile fun c => c.toNat ≤ 32) = y' at hy' ⊢
  rcases scheme?_of_end hy'.strip hc with hnone | ⟨scheme, z, hz, hsome⟩
  · simp only [hnone]
    cases base with
    | none => exact .inr ⟨.error .relativeWithoutBase, fun _ => rfl⟩
    | some base =>
      have head (e : List Char) : (strip y' ++ c :: e).head? = (strip y').head?.or (some c) := by
        cases strip y' <;> rfl
      simp only [head]
      by_cases hhash : (strip y').head?.or (some c) = some '#'
      · simp only [if_pos hhash]
        obtain ⟨u, -, related⟩ := relative_of_end hy'.strip hc base
        exact .inr (settled (.ok related))
      · simp only [if_neg hhash]
        cases base.path with
        | rootless text => exact .inr ⟨.error .relativeWithRootlessBase, fun _ => rfl⟩
        | rooted segments =>
          by_cases hfile : base.scheme = "file"
          · refine .inl fun e u hu => ?_
            rw [if_pos hfile] at hu
            rw [file_scheme (fun b hb => by cases hb; exact hfile) hu]
            rfl
          · simp only [if_neg hfile]
            exact .inr (settled (joinRooted_of_end hy'.strip hc base))
  · simp only [hsome]
    by_cases hfile : scheme = "file"
    · refine .inl fun e u hu => ?_
      rw [if_pos hfile] at hu
      rw [file_scheme (fun b hb => by simpa using (Option.filter_eq_some_iff.mp hb).2) hu]
      rfl
    · simp only [if_neg hfile]
      by_cases hs : isSpecial scheme = true
      · exact .inr (settled (afterScheme_of_end hz hc base hs))
      · refine .inl fun e u hu => ?_
        rw [afterScheme, if_neg hs] at hu
        rw [otherScheme_scheme hu, Bool.eq_false_iff]
        exact fun h => hs (isSpecial_of_isSentFor h)

end

theorem eq_ofList {s : String} {cs : List Char} (h : s.toList = cs) : s = String.ofList cs := by
  rw [← h, String.ofList_toList]

/-! ## What is attached -/

/-- Text that is added behind a fragment does not change what is attached but for the fragment. -/
theorem attach_of_fragment {c : Char} {e : List Char} (h : c = '#' ∨ '#' ∈ e) (t : List Char) (u : Url) :
    attach c (trimEnd (e ++ t)) u =
      { attach c (trimEnd e) u with fragment := (attach c (trimEnd (e ++ t)) u).fragment } := by
  by_cases hc : c = '?'
  · subst hc
    obtain ⟨p, s, rfl⟩ := List.append_of_mem (h.resolve_left (by decide))
    have hash : isPathEnd '#' = true := rfl
    have query : (attach '?' (trimEnd (p ++ '#' :: s ++ t)) u).query =
        (attach '?' (trimEnd (p ++ '#' :: s)) u).query := by
      rw [List.append_assoc, List.cons_append, attach_query, attach_query, trimEnd_of_end hash, trimEnd_of_end hash,
        strip_of_end hash, strip_of_end hash, takeWhile_append_stop rfl, takeWhile_append_stop rfl]
    calc attach '?' (trimEnd (p ++ '#' :: s ++ t)) u
        = { u with
            query := (attach '?' (trimEnd (p ++ '#' :: s ++ t)) u).query
            fragment := (attach '?' (trimEnd (p ++ '#' :: s ++ t)) u).fragment } := rfl
      _ = { attach '?' (trimEnd (p ++ '#' :: s)) u with
            fragment := (attach '?' (trimEnd (p ++ '#' :: s ++ t)) u).fragment } := by
        rw [query]
        rfl
  · simp only [attach, hc, if_false]

end LinkedSelect.Url
