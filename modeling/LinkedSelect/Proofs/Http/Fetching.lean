import Mathlib.Logic.Relation
import LinkedSelect.Proofs.Filtered

/-!
# What becomes of a fetch

* A `Stage` is where a client stands between two requests. `Redirects` takes it on by one redirect, and at a stage from
  which it does not go on the fetch comes to its end (`Stage.Ends`): there is no answer, or one redirect too many, or
  a final answer, which `Response.Gives` reads.
* The client does go from stage to stage as `Redirects` says (`Stage.go_of_reaches`), and so it comes to an end after
  nine redirects at most (`Stage.exists_ends`).
* `Server.one_fate`: a fetch has one of the ends that `Fate` lists, and gives the reply of that one. Without secured
  connections (`Network.IsPlain`) it sends requests for plain HTTP only.
-/

namespace LinkedSelect.Http

/-! ## Ends of a fetch -/

/-- What becomes of a fetch. -/
inductive Fate
  /-- the base and the target make no URL -/
  | unjoined (error : Url.ParseError)
  /-- there is no final answer, or the body of a success is cut short -/
  | undelivered
  /-- the final answer is no success -/
  | refused (status : Nat)
  /-- the body of a success is no choice list -/
  | unreadable (error : Json.Error)
  | listed (choices : List Choice)
  deriving DecidableEq

namespace Fate

/-- The reply of a fetch. -/
def reply : Fate → Reply
  | .unjoined e => .error (.url e)
  | .undelivered => .error (.client .transport)
  | .refused status => .error (.status status (Status.text status))
  | .unreadable e => .error (.client (.decode e))
  | .listed choices => .ok choices

/-- What is kept of the error. -/
def failure? : Fate → Option Failure
  | .unjoined e => some (.other ("URL: " ++ e.text))
  | .undelivered => some .transport
  | .refused status => some (.status status)
  | .unreadable e => some (.decode ("error decoding response body: " ++ e.message))
  | .listed _ => none

/-- Fetches with one reply have one end. -/
theorem eq_of_reply_eq {x y : Fate} (h : x.reply = y.reply) : x = y := by
  cases x <;> cases y <;> simp_all [reply]

/-- What is kept of the error in a reply. -/
theorem failure?_eq (x : Fate) :
    x.failure? = match x.reply with | .ok _ => none | .error e => some e.failure := by
  cases x <;> rfl

end Fate

/-! ## The final answer -/

/-- The body of an answer, which is empty for a status that allows none. -/
def Response.content (r : Response) : List UInt8 :=
  if r.status = 204 then [] else r.body

/-- What a final answer gives. -/
inductive Response.Gives (r : Response) : Fate → Prop
  | refused (h : ¬(200 ≤ r.status ∧ r.status ≤ 299)) : r.Gives (.refused r.status)
  | cut (h : 200 ≤ r.status ∧ r.status ≤ 299) (hb : r.status ≠ 204) (hc : r.complete = false) : r.Gives .undelivered
  | listed (h : 200 ≤ r.status ∧ r.status ≤ 299) (hc : r.status = 204 ∨ r.complete = true) {choices : List Choice}
      (hd : Json.ChoiceList.decode r.content = .ok choices) : r.Gives (.listed choices)
  | unreadable (h : 200 ≤ r.status ∧ r.status ≤ 299) (hc : r.status = 204 ∨ r.complete = true) {e : Json.Error}
      (hd : Json.ChoiceList.decode r.content = .error e) : r.Gives (.unreadable e)

/-- The reply of a trip. -/
def Trip.reply (t : Trip) : Reply :=
  match t.response with
  | none => .error (.client .transport)
  | some response => replyOf response

namespace Response

variable {r : Response}

theorem isSuccess_iff : Status.isSuccess r.status = true ↔ 200 ≤ r.status ∧ r.status ≤ 299 := by
  simp [Status.isSuccess]

theorem exists_gives (r : Response) : ∃ x, r.Gives x := by
  by_cases h : 200 ≤ r.status ∧ r.status ≤ 299
  · by_cases hc : r.status = 204 ∨ r.complete = true
    · cases hd : Json.ChoiceList.decode r.content with
      | ok choices => exact ⟨_, .listed h hc hd⟩
      | error e => exact ⟨_, .unreadable h hc hd⟩
    · rw [not_or, Bool.not_eq_true] at hc
      exact ⟨_, .cut h hc.1 hc.2⟩
  · exact ⟨_, .refused h⟩

/-- An answer that is of use is replied to by what it gives, and any other one is none. -/
theorem Gives.reply {x : Fate} (h : r.Gives x) (sent : List Get) (jar : Jar) :
    (Trip.mk sent jar (if r.isUsable then some r else none)).reply = x.reply := by
  have content : (if Status.hasBody r.status then r.body else []) = r.content := by
    by_cases hb : r.status = 204 <;> simp [Status.hasBody, content, hb]
  have usable (hs : 200 ≤ r.status ∧ r.status ≤ 299) (hc : r.status = 204 ∨ r.complete = true) :
      (Trip.mk sent jar (if r.isUsable then some r else none)).reply = Reply.ofBody r.content := by
    have hu : r.isUsable = true := by
      rcases hc with hc | hc <;> simp [isUsable, hc, Status.hasBody]
    rw [if_pos hu, Trip.reply]
    dsimp only
    rw [replyOf, if_pos (isSuccess_iff.mpr hs), content]
  cases h with
  | refused h =>
    have hs : Status.isSuccess r.status = false := Bool.eq_false_iff.mpr (mt isSuccess_iff.mp h)
    have hu : r.isUsable = true := by simp [isUsable, hs]
    rw [if_pos hu, Trip.reply]
    dsimp only
    rw [replyOf, hs]
    rfl
  | cut h hb hc =>
    have hu : r.isUsable = false := by simp [isUsable, hc, isSuccess_iff.mpr h, Status.hasBody, hb]
    rw [hu]
    rfl
  | listed h hc hd => rw [usable h hc, Reply.ofBody, hd]; rfl
  | unreadable h hc hd => rw [usable h hc, Reply.ofBody, hd]; rfl

end Response

/-! ## From request to request -/

/-- Where a client stands between two requests: what it has sent, the cookies it has, and what it is to send next. -/
structure Stage where
  sent : List Get
  jar : Jar
  next : Get

/-- The next request is sent, and its answer leads to another one. -/
inductive Redirects (net : Network) : Stage → Stage → Prop
  | step {sent : List Get} {jar : Jar} {g : Get} {r : Response} {url : Url} (hs : Url.isSentFor g.url.scheme = true)
      (ha : net sent g = .response r) (hr : r.redirect? g.url = some url) :
      Redirects net ⟨sent, jar, g⟩
        ⟨sent ++ [g], jar.storeAll g.url (r.values "set-cookie"),
          g.redirected (jar.storeAll g.url (r.values "set-cookie")) url⟩

namespace Stage

variable {net : Network} {t u : Stage} {x : Fate}

/-- How a fetch ends at a stage: no request is sent for the next URL, or it has no answer, or it is the tenth and its
answer leads to another one, or its answer is final. -/
inductive Ends (net : Network) (t : Stage) : Fate → Prop
  | foreign (h : Url.isSentFor t.next.url.scheme = false) : t.Ends net .undelivered
  | unanswered (hs : Url.isSentFor t.next.url.scheme = true)
      (h : net t.sent t.next = .unreachable ∨ net t.sent t.next = .dropped) : t.Ends net .undelivered
  | endless {r : Response} {url : Url} (hs : Url.isSentFor t.next.url.scheme = true)
      (ha : net t.sent t.next = .response r)
      (hr : r.redirect? t.next.url = some url) (hl : t.sent.length = 9) : t.Ends net .undelivered
  | final {r : Response} {x : Fate} (hs : Url.isSentFor t.next.url.scheme = true) (ha : net t.sent t.next = .response r)
      (hr : r.redirect? t.next.url = none) (hx : r.Gives x) : t.Ends net x

/-- The rest of the trip. -/
def go (net : Network) (t : Stage) : Trip :=
  follow net (maxRedirects - t.sent.length) t.sent t.jar t.next

theorem length_of_redirects (h : Redirects net t u) : u.sent.length = t.sent.length + 1 := by
  cases h
  exact List.length_append

/-- The client follows a redirect while it has not sent ten requests. -/
theorem go_of_redirects (h : Redirects net t u) (hl : u.sent.length ≤ 9) : t.go net = u.go net := by
  rw [length_of_redirects h] at hl
  cases h with
  | @step sent jar g r url hs ha hr =>
    obtain ⟨left, hleft⟩ := Nat.exists_eq_add_of_le hl
    have before : maxRedirects - sent.length = left + 1 := by
      simp only [maxRedirects, hleft]
      omega
    have behind : maxRedirects - (sent ++ [g]).length = left := by
      simp only [maxRedirects, hleft, List.length_append, List.length_singleton]
      omega
    simp only [go, before, behind]
    rw [follow]
    simp only [hs, Bool.not_true, Bool.false_eq_true, if_false, ha, hr]

/-- The client goes where the redirects lead. -/
theorem go_of_reaches (h : Relation.ReflTransGen (Redirects net) t u) (hl : u.sent.length ≤ 9) :
    t.go net = u.go net := by
  induction h with
  | refl => rfl
  | tail _ hu ih =>
    have := length_of_redirects hu
    rw [ih (by omega), go_of_redirects hu hl]

/-- Where a fetch ends, the trip gives the reply of that end, and one more request is sent at most. -/
theorem Ends.go (h : t.Ends net x) :
    (t.go net).reply = x.reply ∧ (t.go net).sent.length ≤ t.sent.length + 1 := by
  rw [Stage.go, follow]
  cases h with
  | foreign h => simp [h, Trip.reply, Fate.reply]
  | unanswered hs h => rcases h with h | h <;> simp [hs, h, Trip.reply, Fate.reply]
  | endless hs ha hr hlen => simp [hs, ha, hr, hlen, maxRedirects, Trip.reply, Fate.reply]
  | final hs ha hr hx =>
    simp only [hs, Bool.not_true, Bool.false_eq_true, if_false, ha, hr]
    exact ⟨hx.reply _ _, by rw [List.length_append]; exact Nat.le_refl _⟩

/-- A fetch ends at a stage, or it goes on by a redirect. -/
theorem ends_or_redirects (net : Network) (t : Stage) (hl : t.sent.length ≤ 9) :
    (∃ x, t.Ends net x) ∨ ∃ u, Redirects net t u ∧ u.sent.length ≤ 9 := by
  cases hs : Url.isSentFor t.next.url.scheme with
  | false => exact .inl ⟨_, .foreign hs⟩
  | true =>
    cases ha : net t.sent t.next with
    | unreachable => exact .inl ⟨_, .unanswered hs (.inl ha)⟩
    | dropped => exact .inl ⟨_, .unanswered hs (.inr ha)⟩
    | response r =>
      cases hr : r.redirect? t.next.url with
      | none =>
        obtain ⟨x, hx⟩ := r.exists_gives
        exact .inl ⟨x, .final hs ha hr hx⟩
      | some url =>
        by_cases hlast : t.sent.length = 9
        · exact .inl ⟨_, .endless hs ha hr hlast⟩
        · refine .inr ⟨_, .step hs ha hr, ?_⟩
          rw [List.length_append, List.length_singleton]
          omega

/-- Every fetch comes to an end, after nine redirects at most. -/
theorem exists_ends (net : Network) (t : Stage) (hl : t.sent.length ≤ 9) :
    ∃ u x, Relation.ReflTransGen (Redirects net) t u ∧ u.sent.length ≤ 9 ∧ u.Ends net x := by
  rcases ends_or_redirects net t hl with ⟨x, hx⟩ | ⟨u, hu, hul⟩
  · exact ⟨t, x, .refl, hl, hx⟩
  · have := length_of_redirects hu
    obtain ⟨v, x, hv, hvl, hx⟩ := exists_ends net u hul
    exact ⟨v, x, .head hu hv, hvl, hx⟩
termination_by 9 - t.sent.length

end Stage

/-! ## Plain connections -/

/-- Without secured connections there is something to be had for plain HTTP only. -/
theorem Network.IsPlain.scheme_eq {net : Network} (hn : net.IsPlain) {sent : List Get} {g : Get}
    (h : net sent g ≠ .unreachable) : g.url.scheme = "http" :=
  Decidable.not_not.mp (mt (hn sent g) h)

/-- Without secured connections all requests that are sent are for plain HTTP. -/
theorem follow_plain {net : Network} (hn : net.IsPlain) (left : Nat) (sent : List Get) (jar : Jar) (g : Get)
    (h : ∀ p ∈ sent, p.url.scheme = "http") : ∀ p ∈ (follow net left sent jar g).sent, p.url.scheme = "http" := by
  have more {sent : List Get} {g : Get} (h : ∀ p ∈ sent, p.url.scheme = "http") (hg : net sent g ≠ .unreachable) :
      ∀ p ∈ sent ++ [g], p.url.scheme = "http" :=
    List.forall_mem_append.mpr ⟨h, List.forall_mem_singleton.mpr (hn.scheme_eq hg)⟩
  fun_induction follow net left sent jar g with
  | case1 => exact h
  | case2 => exact h
  | case3 _ _ _ _ _ ha => exact more h (by simp [ha])
  | case4 _ _ _ _ _ _ ha => exact more h (by simp [ha])
  | case5 _ _ _ _ _ ha => exact more h (by simp [ha])
  | case6 _ _ _ _ _ ha _ _ _ _ ih => exact ih (more h (by simp [ha]))

/-- Without secured connections a fetch ends where the next URL is not for plain HTTP. -/
theorem Stage.Ends.of_plain {net : Network} (hn : net.IsPlain) {t : Stage} (h : t.next.url.scheme ≠ "http") :
    t.Ends net .undelivered := by
  cases hs : Url.isSentFor t.next.url.scheme with
  | false => exact .foreign hs
  | true => exact .unanswered hs (.inl (hn t.sent t.next h))

/-! ## One end -/

/-- The end that a fetch comes to: its target makes no URL with the base, or redirects lead from the request for the
URL to a stage where it ends. -/
inductive Server.Meets (net : Network) (s : Server) (r : Request) : Fate → Prop
  | unjoined {e : Url.ParseError} (h : s.base.join r.target = .error e) : s.Meets net r (.unjoined e)
  | ends {u : Url} {t : Stage} {x : Fate} (h : s.base.join r.target = .ok u)
      (ht : Relation.ReflTransGen (Redirects net) ⟨[], s.jar, s.get u⟩ t) (hl : t.sent.length ≤ 9)
      (hx : t.Ends net x) : s.Meets net r x

namespace Server

variable {net : Network} {s : Server} {r : Request}

theorem exists_meets (net : Network) (s : Server) (r : Request) : ∃ x, s.Meets net r x := by
  cases h : s.base.join r.target with
  | error e => exact ⟨_, .unjoined h⟩
  | ok u =>
    obtain ⟨t, x, ht, hl, hx⟩ := Stage.exists_ends net ⟨[], s.jar, s.get u⟩ (Nat.zero_le 9)
    exact ⟨x, .ends h ht hl hx⟩

/-- A fetch gives the reply of the end that it comes to, with ten requests at most. -/
theorem Meets.fetch {x : Fate} (h : s.Meets net r x) :
    (s.fetch net r).reply = x.reply ∧ (s.fetch net r).sent.length ≤ 10 := by
  cases h with
  | unjoined h => simp [Server.fetch, h, Fate.reply]
  | @ends u t x h ht hl hx =>
    obtain ⟨hreply, hsent⟩ := hx.go
    rw [← Stage.go_of_reaches ht hl] at hreply hsent
    simp only [Server.fetch, h]
    exact ⟨hreply, Nat.le_trans hsent (Nat.succ_le_succ hl)⟩

/-- Without secured connections all requests of a fetch are for plain HTTP. -/
theorem sent_plain (hn : net.IsPlain) (s : Server) (r : Request) :
    ∀ g ∈ (s.fetch net r).sent, g.url.scheme = "http" := by
  rw [Server.fetch]
  split
  · exact List.forall_mem_nil _
  · exact follow_plain hn _ _ _ _ (List.forall_mem_nil _)

/-- **A fetch has one end.** Whatever the server, the request and the answers are, the fetch meets exactly one of the
ends: the target makes no URL with the base; no answer is final, or the body of a success is cut short; the final
answer is no success, whatever else it holds; or it is one, and its body lists choices or is refused, as an empty body
is. The reply is that of the end, and so is what is kept of it as a failure. Ten requests are sent at most. Without
secured connections these are all for plain HTTP, and a fetch that comes to another URL ends there unanswered. -/
theorem one_fate (net : Network) (s : Server) (r : Request) :
    (∃ x, s.Meets net r x ∧ (∀ y, s.Meets net r y → y = x) ∧ (s.fetch net r).reply = x.reply ∧
      x.failure? = match (s.fetch net r).reply with | .ok _ => none | .error e => some e.failure) ∧
    (∀ choices, Json.ChoiceList.decode [] ≠ .ok choices) ∧ (s.fetch net r).sent.length ≤ 10 ∧
    (net.IsPlain → (∀ g ∈ (s.fetch net r).sent, g.url.scheme = "http") ∧
      ∀ u t, s.base.join r.target = .ok u → Relation.ReflTransGen (Redirects net) ⟨[], s.jar, s.get u⟩ t →
        t.sent.length ≤ 9 → t.next.url.scheme ≠ "http" → s.Meets net r .undelivered) := by
  obtain ⟨x, hx⟩ := exists_meets net s r
  obtain ⟨hreply, hsent⟩ := hx.fetch
  refine ⟨⟨x, hx, fun y hy => ?_, hreply, ?_⟩, fun choices h => ?_, hsent, fun hn => ⟨sent_plain hn s r, ?_⟩⟩
  · exact Fate.eq_of_reply_eq (hy.fetch.1.symm.trans hreply)
  · rw [hreply]
    exact x.failure?_eq
  · have empty : Json.readWhole [] = .error (.past .endInValue []) := rfl
    rw [Json.ChoiceList.decode, empty] at h
    cases h
  · exact fun u t hu ht hl hs => .ends hu ht hl (.of_plain hn hs)

/-- A network that answers every request by a redirect to the same place, with a choice list that nobody reads. -/
def circling : Network :=
  fun _ _ => .response { status := 302, headers := [("Location", "/areas")], body := Utf8.encode "[]".toList }

/-- A network whose answer is elsewhere, and then cut short, or refused, or whole. -/
def moved (status : Nat) (complete : Bool) : Network :=
  .script [.response { status := 301, headers := [("location", "list?site=5")] },
    .response { status, complete, body := Utf8.encode "[[[7]]]".toList }]

/-- A network without secured connections whose answers are all elsewhere, behind such a connection. -/
def upgrading : Network :=
  fun _ g =>
    if g.url.scheme = "http" then .response { status := 308, headers := [("location", "https://h/areas")] }
    else .unreachable

theorem one_fate_redirected :
    let r : Request := ⟨"areas", "site", "5"⟩
    appServer.Meets circling r .undelivered ∧ (appServer.fetch circling r).sent.length = 10 ∧
      appServer.Meets (moved 200 true) r (.listed [⟨.number 7, ""⟩]) ∧
      appServer.Meets (moved 200 false) r .undelivered ∧ appServer.Meets (moved 500 false) r (.refused 500) ∧
      upgrading.IsPlain ∧ appServer.Meets upgrading r .undelivered ∧
      (∀ g ∈ (appServer.fetch upgrading r).sent, g.url.scheme = "http") ∧
      (appServer.fetch upgrading r).sent.length = 1 := by
  intro r
  have meets {net : Network} {x : Fate} (h : (appServer.fetch net r).reply = x.reply) : appServer.Meets net r x := by
    obtain ⟨⟨y, hy, -, hreply, -⟩, -⟩ := one_fate net appServer r
    rw [← Fate.eq_of_reply_eq (hreply.symm.trans h)]
    exact hy
  have plain : upgrading.IsPlain := fun _ _ h => if_neg h
  refine ⟨meets ?_, ?_, meets ?_, meets ?_, meets ?_, plain, meets ?_,
    ((one_fate upgrading appServer r).2.2.2 plain).1, ?_⟩ <;> decide +kernel

end Server

end LinkedSelect.Http
