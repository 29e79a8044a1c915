import Mathlib.Data.List.TakeWhile
import LinkedSelect.Http.Server
import LinkedSelect.Proofs.Url.Component

/-!
# Which filters reach the server

The first request of a fetch is for the target of its request, joined to the base. Its query ends with the filter if the
endpoint has no fragment; what is appended to a fragment is not sent (`Http.Server.filter_sent_unless_fragment`).
-/

namespace LinkedSelect

namespace Http

/-- Nothing is sent, or first of all the request itself. -/
theorem follow_sent (net : Network) (left : Nat) (sent : List Get) (jar : Jar) (g : Get) :
    (follow net left sent jar g).sent = sent ∨
      Url.isSentFor g.url.scheme = true ∧ sent ++ [g] <+: (follow net left sent jar g).sent := by
  fun_induction follow net left sent jar g with
  | case1 => exact .inl rfl
  | case2 => exact .inl rfl
  | case3 _ _ _ _ hs => exact .inr ⟨by simpa using hs, List.prefix_rfl⟩
  | case4 _ _ _ _ hs => exact .inr ⟨by simpa using hs, List.prefix_rfl⟩
  | case5 _ _ _ hs => exact .inr ⟨by simpa using hs, List.prefix_rfl⟩
  | case6 sent jar g hs _ _ _ _ _ left ih =>
    refine .inr ⟨by simpa using hs, ?_⟩
    rcases ih with h | ⟨-, h⟩
    · exact h.symm ▸ List.prefix_rfl
    · exact (List.prefix_append _ _).trans h

/-- The first request of a fetch is for the target, joined to the base. -/
theorem Server.join_of_sent {net : Network} {s : Server} {r : Request} {g : Get}
    (h : (s.fetch net r).sent.head? = some g) :
    ∃ u, s.base.join r.target = .ok u ∧ Url.isSentFor u.scheme = true ∧ g = s.get u := by
  rw [fetch] at h
  split at h
  · cases h
  · next u hu =>
    rcases follow_sent net maxRedirects [] s.jar (s.get u) with hsent | ⟨hs, rest, hsent⟩
    · dsimp only at h
      rw [hsent] at h
      cases h
    · dsimp only at h
      rw [← hsent] at h
      cases h
      exact ⟨u, hu, hs, rfl⟩

end Http

/-! ## Filters in front of a fragment, and in one -/

namespace Request

variable {r : Request}

/-- Where the endpoint has no fragment, the target ends with a query whose last component is the filter. -/
theorem target_of_no_fragment (h : '#' ∉ r.endpoint.toList) :
    ∃ y x, r.target.toList = y ++ '?' :: (x ++ r.filter.toList) ∧ Url.Unended y ∧ '#' ∉ x ∧
      (x = [] ∨ ∃ z, x = z ++ ['&']) := by
  by_cases hq : '?' ∈ r.endpoint.toList
  · obtain ⟨y, c, e, he, hy, hc⟩ := Url.exists_end hq rfl
    have hc : c = '?' := (Url.eq_of_isPathEnd hc).resolve_right fun hc => h (by rw [he, hc]; simp)
    refine ⟨y, e ++ ['&'], ?_, hy, ?_, .inr ⟨e, rfl⟩⟩
    · rw [target_toList, separator, if_pos hq, he, hc]
      simp
    · intro hx
      refine h ?_
      rw [he]
      simp at hx ⊢
      exact .inr (.inr hx)
  · refine ⟨r.endpoint.toList, [], ?_, ?_, List.not_mem_nil, .inl rfl⟩
    · rw [target_toList, separator, if_neg hq, List.nil_append]
    · intro x hx
      simp only [Url.isPathEnd, Bool.or_eq_false_iff, beq_eq_false_iff_ne]
      exact ⟨fun he => hq (he ▸ hx), fun he => h (he ▸ hx)⟩

/-- The query that the target of such an endpoint gives ends with the filter. -/
theorem query_of_no_fragment (h : '#' ∉ r.endpoint.toList) (hp : ∀ c ∈ r.param.toList, isLiteral c = true)
    {base u : Url} (hu : base.join r.target = .ok u) (hs : Url.isSentFor u.scheme = true) :
    ∃ q, u.query = some q ∧ (Split.splitOn (· == '&') q.toList).getLast? = some r.filter.toList := by
  obtain ⟨y, x, ht, hy, hx, hsep⟩ := target_of_no_fragment h
  have literal : ∀ c ∈ r.filter.toList, isLiteral c = true := fun c => isLiteral_of_mem_filter hp
  have hne : r.filter.toList ≠ [] := by simp [filter]
  have alone : ∀ c ∈ r.filter.toList, (c == '&') = false := by
    intro c hc
    rw [beq_eq_false_iff_ne]
    rintro rfl
    exact absurd (literal _ hc) (by decide)
  have unhashed : ∀ c ∈ Url.strip x ++ r.filter.toList, (c != '#') = true := by
    intro c hc
    rw [bne_iff_ne]
    rintro rfl
    rcases List.mem_append.mp hc with hc | hc
    · exact hx (List.mem_filter.mp hc).1
    · exact absurd (literal _ hc) (by decide)
  rw [Url.join, Url.eq_ofList ht] at hu
  rcases Url.parseWith_of_end hy (c := '?') rfl (some base) with other | ⟨settled, hset⟩
  · exact absurd hs (Bool.eq_false_iff.mp (other _ u hu))
  · rw [hset, Url.trimEnd_of_literal hne literal] at hu
    cases settled with
    | error err => cases hu
    | ok v =>
      cases hu
      have special : Url.isSpecial v.scheme = true := Url.isSpecial_of_isSentFor hs
      refine ⟨_, Url.attach_query _ v, ?_⟩
      rw [if_pos special, String.toList_ofList, Url.strip_append, Url.strip_of_literal literal,
        List.takeWhile_eq_self_iff.mpr unhashed, Url.Encoding.encode_append, Url.Encoding.encode_literal literal]
      rcases hsep with rfl | ⟨z, rfl⟩
      · rw [show Url.strip [] = [] from rfl, show Url.Encoding.encode .domainQuery [] = [] from rfl, List.nil_append,
          Split.splitOn_of_not_mem alone]
        rfl
      · rw [Url.strip_append, show Url.strip ['&'] = ['&'] from rfl, Url.Encoding.encode_append,
          Url.Encoding.encode_singleton (c := '&') (by decide) (by decide), List.append_assoc, List.singleton_append,
          Split.splitOn_append '&' rfl alone]
        simp

/-- Behind a fragment nothing comes to more than that fragment. -/
theorem join_of_fragment (h : '#' ∈ r.endpoint.toList) {base u : Url} (hu : base.join r.target = .ok u)
    (hs : Url.isSentFor u.scheme = true) :
    ∃ v, base.join r.endpoint = .ok v ∧ u = { v with fragment := u.fragment } := by
  obtain ⟨y, c, e, he, hy, hc⟩ := Url.exists_end h rfl
  have ht : r.target.toList = y ++ c :: (e ++ separator r.endpoint :: r.filter.toList) := by
    rw [target_toList, he]
    simp
  have hash : c = '#' ∨ '#' ∈ e := by
    rw [he, List.mem_append, List.mem_cons] at h
    rcases h with h | h | h
    · exact absurd (hy _ h) (by decide)
    · exact .inl h.symm
    · exact .inr h
  rw [Url.join, Url.eq_ofList ht] at hu
  rcases Url.parseWith_of_end hy hc (some base) with other | ⟨settled, hset⟩
  · exact absurd hs (Bool.eq_false_iff.mp (other _ u hu))
  · rw [hset] at hu
    cases settled with
    | error err => cases hu
    | ok v =>
      cases hu
      refine ⟨Url.attach c (Url.trimEnd e) v, ?_, ?_⟩
      · rw [Url.join, Url.eq_ofList he, hset]
        rfl
      · rw [Url.attach_of_fragment hash]

end Request

namespace Http

/-- **The filter is sent unless the endpoint has a fragment.** Whatever the base, the endpoint and the value are, the
first request of a fetch is for the target, joined to the base. A request for it, plain or over a secured connection,
has a query whose last component is the filter, if the endpoint has no fragment. If it has one, then the server is asked
for what the endpoint alone is joined to, without any filter. -/
theorem Server.filter_sent_unless_fragment (net : Network) (s : Server) (r : Request)
    (hp : r.param = "site" ∨ r.param = "area") :
    (∀ g, (s.fetch net r).sent.head? = some g →
        ∃ u, s.base.join r.target = .ok u ∧ Url.isSentFor u.scheme = true ∧ g = s.get u) ∧
      ∀ u, s.base.join r.target = .ok u → Url.isSentFor u.scheme = true →
        ('#' ∉ r.endpoint.toList → ∃ q, (s.get u).url.query = some q ∧
          (Split.splitOn (· == '&') q.toList).getLast? = some r.filter.toList) ∧
        ('#' ∈ r.endpoint.toList → ∃ v, s.base.join r.endpoint = .ok v ∧
          (s.get u).url.withoutSecrets = v.withoutSecrets) := by
  have literal : ∀ c ∈ r.param.toList, isLiteral c = true := by
    refine List.all_eq_true.mp ?_
    rcases hp with hp | hp <;> rw [hp] <;> decide
  refine ⟨fun g h => join_of_sent h, fun u hu hs => ⟨fun hno => ?_, fun hfragment => ?_⟩⟩
  · exact Request.query_of_no_fragment (u := u) hno literal hu hs
  · obtain ⟨v, hv, he⟩ := Request.join_of_fragment hfragment hu hs
    refine ⟨v, hv, ?_⟩
    rw [he]
    rfl

/-- A server whose endpoints are relative to `http://h/app/`. -/
def appServer : Server where
  base := { scheme := "http", host := some (.domain "h"), path := .rooted ["app", ""] }
  headers := standardHeaders
  timeout := none
  jar := {}

/-- A network that takes a request and never answers it. -/
def silent : Network :=
  fun _ _ => .dropped

theorem relative_endpoint_filtered :
    let r : Request := ⟨" ../areas?format=json\t", "site", "a b&c"⟩
    ∃ g, (appServer.fetch silent r).sent.head? = some g ∧ '#' ∉ r.endpoint.toList ∧
      g.url.query = some "format=json&site=a%20b%26c" ∧
      ∃ q, g.url.query = some q ∧ (Split.splitOn (· == '&') q.toList).getLast? = some r.filter.toList := by
  intro r
  have sent : (appServer.fetch silent r).sent.head? = some (appServer.get
      { scheme := "http", host := some (.domain "h"), path := .rooted ["areas"],
        query := some "format=json&site=a%20b%26c" }) := by decide +kernel
  have hno : '#' ∉ r.endpoint.toList := by decide +kernel
  obtain ⟨first, filtered⟩ := Server.filter_sent_unless_fragment silent appServer r (.inl rfl)
  obtain ⟨u, hu, hs, hg⟩ := first _ sent
  refine ⟨_, sent, hno, rfl, ?_⟩
  rw [hg]
  exact (filtered u hu hs).1 hno

/-- The filter of an endpoint with a fragment is not sent. -/
theorem fragment_hides_filter :
    ∃ g, (appServer.fetch silent ⟨"/areas#all", "site", "5"⟩).sent.head? = some g ∧ g.url.query = none := by
  have sent : (appServer.fetch silent ⟨"/areas#all", "site", "5"⟩).sent.head? = some (appServer.get
      { scheme := "http", host := some (.domain "h"), path := .rooted ["areas"], fragment := some "all?site=5" }) := by
    decide +kernel
  exact ⟨_, sent, rfl⟩

end Http

end LinkedSelect
