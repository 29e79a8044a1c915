import LinkedSelect.Proofs.Origin
import LinkedSelect.Proofs.Strand

/-!
# What loading a level asks, changes and gives

A call loads a level when it is asked to, or to restore the page, or to report a pick. If a load of the areas restored
one of them, the call goes on with its racks, and looks again whether that area is still selected.

* `Loading` lists what the sections of one load can be, and `LoadsFrom` those of a call from one of its loads on; a call
  keeps to them section by section (`LoadsFrom.step`, `Strand.loadsFrom`).
* `LoadAccount` says what such a call asks for and what it leaves alone (`LoadsFrom.account`).
* `Session.load_reports_first`: it keeps to this account whatever happens around it, ends when it waits no more, and
  gives the outcome of its first load.
-/

namespace LinkedSelect

theorem Level.eq_site_of_parent? {l : Level} (h : l.parent? = none) : l = .site := by
  cases l <;> first | rfl | cases h

theorem Level.ne_site_of_parent? {l m : Level} (h : l.parent? = some m) : l ≠ .site := by
  rintro rfl
  cases h

namespace Load

/-- The request of a load over these endpoints, if it has a parent, a value to filter by and an endpoint. -/
def request? (l : Load) (e : Endpoints) : Option Request :=
  l.level.parent?.bind fun parent =>
    if l.filter = "" then none else ((e.get? l.level).filter (· ≠ "")).map (⟨·, parent.name, l.filter⟩)

/-- The load of the racks of an area that was restored among so many. -/
def below (l : Load) (n : Nat) (a : String) : Load :=
  ⟨.rack, a, l.retain, some (.populated n (some a))⟩

/-- The load continues one of the level above, which has another value by now. -/
def isOutdatedIn (l : Load) (f : Form) : Bool :=
  l.level.parent?.any (f.isOutdated l)

variable {l m : Load} {o : Outcome}

/-- The first load of a call looks at nothing. -/
theorem isOutdatedIn_of_first (h : l.first = none) (f : Form) : l.isOutdatedIn f = false := by
  cases hp : l.level.parent? <;> simp [isOutdatedIn, Form.isOutdated, hp, h]

theorem isOutdatedIn_below (l : Load) (n : Nat) (a : String) (f : Form) :
    (l.below n a).isOutdatedIn f = (f.area.select.value != a) := by
  simp [isOutdatedIn, Form.isOutdated, below, Level.parent?, Form.get]

theorem request?_below (l : Load) (n : Nat) {a : String} (h : a ≠ "") (e : Endpoints) :
    (l.below n a).request? e = (e.racks.filter (· ≠ "")).map (⟨·, "area", a⟩) := by
  simp [request?, below, Level.parent?, Level.name, Endpoints.get?, h]

theorem next?_area (hl : l.level = .area) (hf : l.first = none) (n : Nat) (a : String) :
    l.next? (.populated n (some a)) = some (l.below n a) := by
  simp [next?, below, hl, hf, Level.child?]

/-- A load of a lower level goes on with racks, if it is one of the areas that restored a value. -/
theorem of_next?_first (h : l.next? o = some m) (hl : l.level ≠ .site) (hf : l.first = none) :
    l.level = .area ∧ ∃ n a, o = .populated n (some a) ∧ m = l.below n a := by
  obtain ⟨n, ho, hc, -⟩ := of_next? h
  have harea : l.level = .area := by
    cases hlev : l.level with
    | site => exact absurd hlev hl
    | area => rfl
    | rack => rw [hlev] at hc; cases hc
  subst ho
  rw [next?_area harea hf] at h
  exact ⟨harea, n, m.filter, rfl, (Option.some.inj h).symm⟩

theorem report_of_next? (h : l.next? o = some m) (r : Outcome) : m.report r = l.report o := by
  unfold next? at h
  split at h
  · cases h
    rfl
  · cases h

end Load

/-! ## Sections of a load -/

namespace Section

variable {x y : Section} {l : Load} {o : Outcome} {p : Pending}

/-- In this section a load ended: its outcome is the last one of its field, unless it was superseded; a level without
a parent is refused, which changes nothing; and a value that was restored is not empty. -/
structure Closes (x : Section) (l : Load) (o : Outcome) : Prop where
  stop : x.stop = .returned l o
  outcome : o ≠ .superseded → l.level ≠ .site → (x.after.get l.level).outcome = some o
  site : l.level = .site → o = .disabled ∧ x.after = x.before
  value_ne : ∀ n a, o = .populated n (some a) → a ≠ ""

/-- What the section comes to in which a load begins: nothing, if the load is outdated; or it is refused, or it asks. -/
inductive Opens (x : Section) (l : Load) : Prop
  | outdated (ho : l.isOutdatedIn x.before = true) (hc : x.Closes l .superseded) (hf : x.after = x.before)
  | refused (ho : l.isOutdatedIn x.before = false) (hn : l.level = .site ∨ x.before.endpoint? l.level l.filter = none)
      (hc : x.Closes l .disabled)
  | asks {p : Pending} (ha : x.Asks p) (hl : p.load = l)

theorem Runs.opens (h : x.Runs) (hs : x.start = .ready l) : x.Opens l := by
  cases h with
  | reply => cases hs
  | @own number call f a ha =>
    cases hs
    have hb := Form.begins f l
    simp only [Activity.advance]
    generalize f.beginLoad l = r at hb ⊢
    cases hb with
    | parentless h =>
      have hsite : l.level = .site := Level.eq_site_of_parent? h
      exact .refused (by simp [Load.isOutdatedIn, h]) (.inl hsite)
        ⟨rfl, fun _ hne => absurd hsite hne, fun _ => ⟨rfl, rfl⟩, fun _ _ h => by cases h⟩
    | outdated h ho =>
      exact .outdated (by simp [Load.isOutdatedIn, h, ho])
        ⟨rfl, fun hne => absurd rfl hne, fun hl => absurd hl (Level.ne_site_of_parent? h), fun _ _ h => by cases h⟩ rfl
    | declined h ho he =>
      refine .refused (by simp [Load.isOutdatedIn, h, ho]) (.inr he)
        ⟨rfl, fun _ _ => ?_, fun hl => absurd hl (Level.ne_site_of_parent? h), fun _ _ h => by cases h⟩
      rw [Form.get_modify, if_pos rfl]
      rfl
    | waits h ho he => exact .asks ⟨rfl, rfl⟩ rfl

/-- A load that asks is not outdated. -/
theorem Runs.isOutdatedIn_of_asks (h : x.Runs) (ha : x.Asks p) : p.load.isOutdatedIn x.before = false := by
  obtain ⟨parent, _, hp, ho, _⟩ := h.asks_inv ha
  rw [Load.isOutdatedIn, hp, Option.any_some, ho]

theorem Runs.level_ne_site_of_asks (h : x.Runs) (ha : x.Asks p) : p.load.level ≠ .site := by
  obtain ⟨parent, _, hp, _⟩ := h.asks_inv ha
  exact Level.ne_site_of_parent? hp

/-- A load that asked ends with the reply. -/
theorem Runs.closes_of_waiting (hx : x.Runs) (ha : x.Asks p) (hy : y.Runs) (hs : y.start = .waiting p) :
    ∃ o, y.Closes p.load o := by
  obtain ⟨reply, hr⟩ := hy.answers_of_waiting hs
  have hsite := hx.level_ne_site_of_asks ha
  have he := hy.answers_inv hr
  by_cases hl : (y.before.get p.load.level).phase = .loading p.generation
  · rw [Activity.resume_of_loading hl] at he
    obtain ⟨hafter, hstop⟩ := Prod.mk.inj he
    refine ⟨_, hstop, fun _ _ => ?_, fun h => absurd h hsite, fun n a ho => ?_⟩
    · rw [hafter, Form.get_modify, if_pos rfl]
      rfl
    · cases reply with
      | ok choices => exact (Select.hit?_eq_some (Outcome.populated.inj ho).2).2
      | error e => cases ho
  · rw [Activity.resume_of_not_loading hl] at he
    obtain ⟨-, hstop⟩ := Prod.mk.inj he
    exact ⟨_, hstop, fun h => absurd rfl h, fun h => absurd h hsite, fun _ _ h => by cases h⟩

/-- Behind a load the call goes on, and the form stays as it is. -/
theorem Runs.goesOn (h : x.Runs) (hs : x.start = .returned l o) :
    x.after = x.before ∧ x.stop = Activity.goOn l o := by
  cases h with
  | own ha =>
    cases hs
    exact ⟨rfl, rfl⟩
  | reply => cases hs

/-- A load asks what its endpoints say, unless it is outdated. -/
theorem Runs.requests_of_ready {e : Endpoints} (h : x.Runs) (hs : x.start = .ready l)
    (he : (x.before.get l.level).endpoint = (e.get? l.level).filter (· ≠ "")) :
    x.stop.requests = if l.isOutdatedIn x.before then [] else (l.request? e).toList := by
  have hreq : l.request? e =
      l.level.parent?.bind fun m => (x.before.endpoint? l.level l.filter).map (⟨·, m.name, l.filter⟩) := by
    rw [Load.request?, Form.endpoint?, he]
    split <;> rfl
  cases h.opens hs with
  | outdated ho hc => rw [hc.stop, if_pos ho]; rfl
  | refused ho hn hc =>
    rw [hc.stop, ho, if_neg Bool.false_ne_true, hreq]
    rcases hn with hn | hn
    · rw [hn]; rfl
    · rw [hn]; cases l.level.parent? <;> rfl
  | asks ha hl =>
    subst hl
    obtain ⟨parent, endpoint, hp, -, hend, hr, -⟩ := h.asks_inv ha
    rw [h.isOutdatedIn_of_asks ha, if_neg Bool.false_ne_true, hreq, hp, hend, ha.2, Activity.requests, hr]
    rfl

end Section

/-- What the sections of one load can be so far: it begins, and is refused or asks; and it ends with the reply. The
call stands at the given activity after them. -/
inductive Loading (l : Load) : List Section → Activity → Prop
  | ready : Loading l [] (.ready l)
  | refused {x : Section} {o : Outcome} (hx : x.Runs) (hs : x.start = .ready l) (hc : x.Closes l o) :
      Loading l [x] (.returned l o)
  | asked {x : Section} {p : Pending} (hx : x.Runs) (ha : x.Asks p) (hl : p.load = l) : Loading l [x] (.waiting p)
  | answered {x y : Section} {p : Pending} {o : Outcome} (hx : x.Runs) (ha : x.Asks p) (hl : p.load = l)
      (hs : y.start = .waiting p) (hc : y.Closes l o) : Loading l [x, y] (.returned l o)

/-- What the sections of a call can be so far from one of its loads on. -/
inductive LoadsFrom : Load → List Section → Activity → Prop
  | here {l : Load} {xs : List Section} {a : Activity} (h : Loading l xs a) : LoadsFrom l xs a
  | last {l : Load} {xs : List Section} {x : Section} {o : Outcome} (h : Loading l xs (.returned l o))
      (hn : l.next? o = none) (hs : x.start = .returned l o) (hf : x.after = x.before)
      (he : x.stop = .ended (l.report o)) : LoadsFrom l (xs ++ [x]) (.ended (l.report o))
  | next {l m : Load} {xs ys : List Section} {x : Section} {o : Outcome} {a : Activity}
      (h : Loading l xs (.returned l o)) (hn : l.next? o = some m) (hs : x.start = .returned l o)
      (hf : x.after = x.before) (he : x.stop = .ready m) (hm : LoadsFrom m ys a) : LoadsFrom l (xs ++ x :: ys) a

/-- A section more of a load; or the load has ended, and the call goes on. -/
theorem Loading.step {l : Load} {xs : List Section} {x : Section} {a : Activity} (h : Loading l xs a) (hx : x.Runs)
    (hs : x.start = a) : Loading l (xs ++ [x]) x.stop ∨
      ∃ o, a = .returned l o ∧ x.after = x.before ∧ x.stop = Activity.goOn l o := by
  cases h with
  | ready =>
    left
    cases hx.opens hs with
    | outdated _ hc => rw [hc.stop]; exact .refused hx hs hc
    | refused _ _ hc => rw [hc.stop]; exact .refused hx hs hc
    | asks ha hl => rw [ha.2]; exact .asked hx ha hl
  | refused => exact Or.inr ⟨_, rfl, hx.goesOn hs⟩
  | asked hz ha hl =>
    left
    obtain ⟨o, hc⟩ := hz.closes_of_waiting ha hx hs
    rw [hl] at hc
    rw [hc.stop]
    exact .answered hz ha hl hs hc
  | answered => exact Or.inr ⟨_, rfl, hx.goesOn hs⟩

/-- A section more of a call. -/
theorem LoadsFrom.step {l : Load} {xs : List Section} {x : Section} {a : Activity} (h : LoadsFrom l xs a)
    (hx : x.Runs) (hs : x.start = a) : LoadsFrom l (xs ++ [x]) x.stop := by
  induction h with
  | @here l xs a h =>
    rcases h.step hx hs with h' | ⟨o, rfl, hf, he⟩
    · exact .here h'
    · cases hn : l.next? o with
      | none =>
        have he : x.stop = .ended (l.report o) := by rw [he, Activity.goOn, hn]
        rw [he]
        exact .last h hn hs hf he
      | some m =>
        have he : x.stop = .ready m := by rw [he, Activity.goOn, hn]
        rw [he]
        exact .next h hn hs hf he (.here .ready)
  | last =>
    -- a call that has ended runs no section
    cases hx with
    | own ha => cases hs; cases ha
    | reply => cases hs
  | next h hn hs' hf he _ ih =>
    rw [List.append_assoc, List.cons_append]
    exact .next h hn hs' hf he (ih hs)

/-- A call that begins a load in its first section goes on from there. -/
theorem Strand.loadsFrom {n : Nat} {call : Call} {l : Load} {x : Section} {ys zs : List Section} {a : Activity}
    (h : Strand n call ys a) (hys : ys = x :: zs) (hs : x.stop = .ready l) : LoadsFrom l zs a := by
  induction h generalizing zs with
  | nil => cases hys
  | @snoc ys y _ hy _ _ ih =>
    cases ys with
    | nil =>
      obtain ⟨rfl, rfl⟩ := List.cons.inj hys
      rw [hs]
      exact .here .ready
    | cons z ys =>
      obtain ⟨rfl, rfl⟩ := List.cons.inj hys
      exact (ih rfl).step hy rfl

/-! ## What the sections of a call amount to -/

/-- A load begins in the first of these sections and has ended with this outcome, if with any. In the others no load
begins and nothing is asked, and an outdated load changes nothing, nor does one of a level without a parent. -/
structure Leads (l : Load) (z : Section) (rest : List Section) (outcome : Option Outcome) : Prop where
  runs : z.Runs
  start : z.start = .ready l
  begins : ∀ w ∈ rest, ∀ m, w.start ≠ .ready m
  asks : ∀ w ∈ rest, w.stop.requests = []
  ends : ∀ w ∈ z :: rest, ∀ m o, w.stop = .returned m o → m = l ∧ outcome = some o
  ended : ∀ o ∈ outcome, ∃ w ∈ z :: rest, w.stop = .returned l o
  idle : l.level = .site ∨ l.isOutdatedIn z.before = true → ∀ w ∈ z :: rest, w.after = w.before

namespace Leads

variable {l : Load} {z x : Section} {rest : List Section} {outcome : Option Outcome} {o : Outcome}

/-- The load asked. -/
theorem of_asks {p : Pending} (hz : z.Runs) (ha : z.Asks p) (hl : p.load = l) : Leads l z [] none where
  runs := hz
  start := by rw [← hl]; exact ha.1
  begins _ hw := absurd hw List.not_mem_nil
  asks _ hw := absurd hw List.not_mem_nil
  ends := by
    rw [List.forall_mem_singleton, ha.2]
    exact fun m o ho => by cases ho
  ended o ho := absurd ho (Option.not_mem_none o)
  idle hi := by
    subst hl
    rcases hi with hi | hi
    · exact absurd hi (hz.level_ne_site_of_asks ha)
    · rw [hz.isOutdatedIn_of_asks ha] at hi
      cases hi

/-- The load was refused. -/
theorem of_closes (hz : z.Runs) (hs : z.start = .ready l) (hc : z.Closes l o) : Leads l z [] (some o) where
  runs := hz
  start := hs
  begins _ hw := absurd hw List.not_mem_nil
  asks _ hw := absurd hw List.not_mem_nil
  ends := by
    rw [List.forall_mem_singleton, hc.stop]
    exact fun m o' ho => by cases ho; exact ⟨rfl, rfl⟩
  ended o' ho := by
    cases ho
    exact ⟨z, List.mem_singleton_self z, hc.stop⟩
  idle hi := by
    rw [List.forall_mem_singleton]
    rcases hi with hi | hi
    · exact (hc.site hi).2
    · cases hz.opens hs with
      | outdated _ _ hf => exact hf
      | refused ho => rw [ho] at hi; cases hi
      | asks ha => cases hc.stop.symm.trans ha.2

/-- The reply came. -/
theorem closes {p : Pending} (h : Leads l z rest none) (hl : l.level ≠ .site) (ho : l.isOutdatedIn z.before = false)
    (hs : x.start = .waiting p) (hc : x.Closes l o) : Leads l z (rest ++ [x]) (some o) where
  runs := h.runs
  start := h.start
  begins := by
    rw [List.forall_mem_append, List.forall_mem_singleton, hs]
    exact ⟨h.begins, fun m hm => by cases hm⟩
  asks := by
    rw [List.forall_mem_append, List.forall_mem_singleton, hc.stop]
    exact ⟨h.asks, rfl⟩
  ends := by
    rw [← List.cons_append, List.forall_mem_append, List.forall_mem_singleton, hc.stop]
    exact ⟨fun w hw m o' hwo => (Option.some_ne_none _ (h.ends w hw m o' hwo).2.symm).elim,
      fun m o' ho' => by cases ho'; exact ⟨rfl, rfl⟩⟩
  ended o' ho' := by
    cases ho'
    exact ⟨x, by simp, hc.stop⟩
  idle hi := by
    rw [ho] at hi
    exact absurd hi (by simp [hl])

/-- The call ended behind the load. -/
theorem concat {r : Outcome} (h : Leads l z rest outcome) (hs : x.start = .returned l o) (hf : x.after = x.before)
    (he : x.stop = .ended r) : Leads l z (rest ++ [x]) outcome where
  runs := h.runs
  start := h.start
  begins := by
    rw [List.forall_mem_append, List.forall_mem_singleton, hs]
    exact ⟨h.begins, fun m hm => by cases hm⟩
  asks := by
    rw [List.forall_mem_append, List.forall_mem_singleton, he]
    exact ⟨h.asks, rfl⟩
  ends := by
    rw [← List.cons_append, List.forall_mem_append, List.forall_mem_singleton, he]
    exact ⟨h.ends, fun m o' ho' => by cases ho'⟩
  ended o' ho' := by
    obtain ⟨w, hw, hwo⟩ := h.ended o' ho'
    exact ⟨w, List.mem_append_left [x] hw, hwo⟩
  idle hi := by
    rw [← List.cons_append, List.forall_mem_append, List.forall_mem_singleton]
    exact ⟨h.idle hi, hf⟩

/-- What is asked is asked at the beginning. -/
theorem requests_eq {e : Endpoints} (h : Leads l z rest outcome)
    (he : (z.before.get l.level).endpoint = (e.get? l.level).filter (· ≠ "")) :
    (z :: rest).flatMap (·.stop.requests) = if l.isOutdatedIn z.before then [] else (l.request? e).toList := by
  rw [List.flatMap_cons, List.flatMap_eq_nil_iff.mpr h.asks, List.append_nil, h.runs.requests_of_ready h.start he]

/-- The only load that begins. -/
theorem eq_of_ready {w : Section} {m : Load} (h : Leads l z rest outcome) (hw : w ∈ z :: rest)
    (hs : w.start = .ready m) : w = z ∧ m = l := by
  rcases List.mem_cons.mp hw with rfl | hw
  · rw [h.start] at hs
    exact ⟨rfl, (Activity.ready.inj hs).symm⟩
  · exact absurd hs (h.begins w hw m)

end Leads

namespace Loading

variable {l : Load} {xs : List Section} {o : Outcome}

/-- A load that has ended. -/
theorem leads_returned (h : Loading l xs (.returned l o)) : ∃ z rest, xs = z :: rest ∧ Leads l z rest (some o) := by
  cases h with
  | refused hx hs hc => exact ⟨_, _, rfl, .of_closes hx hs hc⟩
  | answered hx ha hl hs hc =>
    have hlead := Leads.of_asks hx ha hl
    subst hl
    exact ⟨_, _, rfl, hlead.closes (hx.level_ne_site_of_asks ha) (hx.isOutdatedIn_of_asks ha) hs hc⟩

/-- A load ends as it says. -/
theorem closes_of_mem {a : Activity} {y : Section} {m : Load} (h : Loading l xs a) (hy : y ∈ xs)
    (hs : y.stop = .returned m o) : y.Closes m o := by
  cases h with
  | ready => cases hy
  | refused _ _ hc =>
    rw [List.mem_singleton.mp hy] at hs ⊢
    cases hc.stop.symm.trans hs
    exact hc
  | asked _ ha =>
    rw [List.mem_singleton.mp hy, ha.2] at hs
    cases hs
  | answered _ ha _ _ hc =>
    rcases List.mem_cons.mp hy with rfl | hy
    · rw [ha.2] at hs
      cases hs
    · rw [List.mem_singleton.mp hy] at hs ⊢
      cases hc.stop.symm.trans hs
      exact hc

end Loading

namespace LoadsFrom

variable {l : Load} {xs : List Section} {a : Activity} {y : Section}

/-- Every load of a call ends as it says. -/
theorem closes_of_mem {m : Load} {o : Outcome} (h : LoadsFrom l xs a) (hy : y ∈ xs) (hs : y.stop = .returned m o) :
    y.Closes m o := by
  induction h with
  | here h => exact h.closes_of_mem hy hs
  | last h _ _ _ he =>
    rcases List.mem_append.mp hy with hy | hy
    · exact h.closes_of_mem hy hs
    · rw [List.mem_singleton.mp hy, he] at hs
      cases hs
  | next h _ _ _ he _ ih =>
    rcases List.mem_append.mp hy with hy | hy
    · exact h.closes_of_mem hy hs
    · rcases List.mem_cons.mp hy with rfl | hy
      · rw [he] at hs
        cases hs
      · exact ih hy

/-- The result of a call is the outcome of its first load, whatever comes of the others. -/
theorem report_of_ended {r : Outcome} (h : LoadsFrom l xs a) (ha : a = .ended r) :
    ∃ z ∈ xs, ∃ o, z.stop = .returned l o ∧ r = l.report o := by
  induction h with
  | here h =>
    subst ha
    cases h
  | @last l xs x o h =>
    cases ha
    obtain ⟨z, rest, rfl, hl⟩ := h.leads_returned
    obtain ⟨w, hw, hwo⟩ := hl.ended _ rfl
    exact ⟨w, List.mem_append_left _ hw, o, hwo, rfl⟩
  | @next l m xs ys x o a h hn _ _ _ _ ih =>
    obtain ⟨-, -, o', -, hr⟩ := ih ha
    obtain ⟨z, rest, rfl, hl⟩ := h.leads_returned
    obtain ⟨w, hw, hwo⟩ := hl.ended _ rfl
    exact ⟨w, List.mem_append_left _ hw, o, hwo, hr.trans (Load.report_of_next? hn o')⟩

/-- A call that cannot go on by itself is in its last load or behind it; or it has gone on with another one. -/
theorem leads_or_next (h : LoadsFrom l xs a) (ha : a.canAdvance = false) :
    (∃ z rest outcome, xs = z :: rest ∧ Leads l z rest outcome ∧ ∀ o ∈ outcome, l.next? o = none) ∨
      ∃ z rest o m x ys, xs = z :: rest ++ x :: ys ∧ Leads l z rest (some o) ∧ l.next? o = some m ∧
        x.start = .returned l o ∧ x.after = x.before ∧ x.stop = .ready m ∧ LoadsFrom m ys a := by
  cases h with
  | here h =>
    left
    cases h with
    | ready => cases ha
    | refused => cases ha
    | asked hx hp hl => exact ⟨_, _, _, rfl, .of_asks hx hp hl, fun o ho => absurd ho (Option.not_mem_none o)⟩
    | answered => cases ha
  | last h hn hs hf he =>
    left
    obtain ⟨z, rest, rfl, hl⟩ := h.leads_returned
    exact ⟨z, rest ++ _, _, rfl, hl.concat hs hf he, fun o ho => by cases ho; exact hn⟩
  | next h hn hs hf he hm =>
    right
    obtain ⟨z, rest, rfl, hl⟩ := h.leads_returned
    exact ⟨z, rest, _, _, _, _, rfl, hl, hn, hs, hf, he, hm⟩

end LoadsFrom

/-! ## The account of a call -/

/-- What the sections `ys` of a call ask for and leave alone whose first load is `own`, over these endpoints. -/
structure LoadAccount (own : Load) (e : Endpoints) (ys : List Section) : Prop where
  /-- The call asks for its own level as its endpoints say, and then at most once for racks: those of a restored area,
  if that one is still selected when their load begins, and if racks have an endpoint. -/
  requests : ∃ below : Option Request, ys.flatMap (·.stop.requests) = (own.request? e).toList ++ below.toList ∧
    ∀ q, below = some q ↔ ∃ z ∈ ys, ∃ n a endpoint, z.start = .ready (own.below n a) ∧
      z.before.area.select.value = a ∧ e.racks = some endpoint ∧ endpoint ≠ "" ∧ q = ⟨endpoint, "area", a⟩
  /-- It goes on with racks if it loads areas and has restored one. -/
  continued : ∀ n a, (∃ z ∈ ys, z.start = .ready (own.below n a)) ↔
    own.level = .area ∧ ∃ y ∈ ys, y.stop = .returned own (.populated n (some a))
  /-- If the area has changed by then, the rest of the call changes nothing. -/
  outdated : ∀ us z vs n a, ys = us ++ z :: vs → z.start = .ready (own.below n a) →
    z.before.area.select.value ≠ a → ∀ w ∈ z :: vs, w.after = w.before
  /-- Sites are not loaded, and the call changes nothing. -/
  site : own.level = .site → ∀ w ∈ ys, w.after = w.before

namespace LoadAccount

variable {own : Load} {e : Endpoints} {z x : Section} {rest ys : List Section} {outcome : Option Outcome}

/-- A call with one load. -/
theorem of_leads (h : Leads own z rest outcome) (hn : ∀ o ∈ outcome, own.next? o = none) (hfirst : own.first = none)
    (he : (z.before.get own.level).endpoint = (e.get? own.level).filter (· ≠ "")) :
    LoadAccount own e (z :: rest) := by
  have hbelow : ∀ w ∈ z :: rest, ∀ n a, w.start ≠ .ready (own.below n a) := fun w hw n a hs => by
    have hl := congrArg Load.first (h.eq_of_ready hw hs).2
    rw [hfirst] at hl
    cases hl
  exact {
    requests := by
      refine ⟨none, ?_, fun q => ⟨fun hq => absurd hq.symm (Option.some_ne_none q), ?_⟩⟩
      · rw [h.requests_eq he, Load.isOutdatedIn_of_first hfirst, if_neg Bool.false_ne_true]
        exact (List.append_nil _).symm
      · rintro ⟨w, hw, n, a, _, hs, _⟩
        exact absurd hs (hbelow w hw n a)
    continued := fun n a => by
      constructor
      · rintro ⟨w, hw, hs⟩
        exact absurd hs (hbelow w hw n a)
      · rintro ⟨hl, w, hw, hs⟩
        have hnone := hn _ (h.ends w hw _ _ hs).2
        rw [Load.next?_area hl hfirst] at hnone
        cases hnone
    outdated := fun us w vs n a heq hs => absurd hs (hbelow w (by rw [heq]; simp) n a)
    site := fun hl => h.idle (Or.inl hl) }

/-- From a section on that is not among the first ones, all are among the others. -/
theorem mem_of_append_eq {us vs as bs : List Section} {w : Section} (h : us ++ z :: vs = as ++ bs) (hz : z ∉ as)
    (hw : w ∈ z :: vs) : w ∈ bs := by
  rcases List.append_eq_append_iff.mp h with ⟨cs, rfl, hcs⟩ | ⟨cs, rfl, rfl⟩
  · cases cs with
    | nil =>
      rw [List.nil_append] at hcs
      rwa [← hcs]
    | cons c cs =>
      obtain ⟨rfl, -⟩ := List.cons.inj hcs
      exact absurd (List.mem_append_right us List.mem_cons_self) hz
  · exact List.mem_append_right cs hw

/-- A call with two loads. -/
theorem of_leads_leads {z' : Section} {rest' : List Section} {outcome' : Option Outcome} {n : Nat} {a : String}
    (h : Leads own z rest (some (.populated n (some a)))) (h' : Leads (own.below n a) z' rest' outcome')
    (hl : own.level = .area) (hfirst : own.first = none) (hne : a ≠ "")
    (hs : x.start = .returned own (.populated n (some a))) (hf : x.after = x.before)
    (hx : x.stop = .ready (own.below n a))
    (he : (z.before.get own.level).endpoint = (e.get? own.level).filter (· ≠ ""))
    (he' : (z'.before.get .rack).endpoint = e.racks.filter (· ≠ "")) :
    LoadAccount own e (z :: rest ++ x :: z' :: rest') := by
  have hfst : ∀ w ∈ z :: rest, ∀ k b, w.start ≠ .ready (own.below k b) := fun w hw k b hs => by
    have hown := congrArg Load.first (h.eq_of_ready hw hs).2
    rw [hfirst] at hown
    cases hown
  have hsnd : ∀ w ∈ z :: rest ++ x :: z' :: rest', ∀ k b, w.start = .ready (own.below k b) →
      w = z' ∧ k = n ∧ b = a := by
    intro w hw k b hws
    rcases List.mem_append.mp hw with hw | hw
    · exact absurd hws (hfst w hw k b)
    · rcases List.mem_cons.mp hw with rfl | hw
      · cases hs.symm.trans hws
      · obtain ⟨rfl, hm⟩ := h'.eq_of_ready hw hws
        cases hm
        exact ⟨rfl, rfl, rfl⟩
  have hz' : z' ∈ z :: rest ++ x :: z' :: rest' := by simp
  exact {
    requests := by
      refine ⟨if z'.before.area.select.value = a then (own.below n a).request? e else none, ?_, fun q => ?_⟩
      · rw [List.flatMap_append, h.requests_eq he, List.flatMap_cons, hx, h'.requests_eq he',
          Load.isOutdatedIn_of_first hfirst, if_neg Bool.false_ne_true, Load.isOutdatedIn_below]
        by_cases hv : z'.before.area.select.value = a <;> simp [hv, Activity.requests]
      · rw [Load.request?_below own n hne]
        constructor
        · intro hq
          split at hq
          · next hv =>
            obtain ⟨endpoint, hend, rfl⟩ := Option.map_eq_some_iff.mp hq
            obtain ⟨hracks, hend⟩ := Option.filter_eq_some_iff.mp hend
            exact ⟨z', hz', n, a, endpoint, h'.start, hv, hracks, by simpa using hend, rfl⟩
          · cases hq
        · rintro ⟨w, hw, k, b, endpoint, hws, hv, hracks, hend, rfl⟩
          obtain ⟨rfl, rfl, rfl⟩ := hsnd w hw k b hws
          rw [if_pos hv, hracks]
          simp [Option.filter, hend]
    continued := fun k b => by
      constructor
      · rintro ⟨w, hw, hws⟩
        obtain ⟨rfl, rfl, rfl⟩ := hsnd w hw k b hws
        obtain ⟨y, hy, hyo⟩ := h.ended _ rfl
        exact ⟨hl, y, List.mem_append_left _ hy, hyo⟩
      · rintro ⟨-, y, hy, hyo⟩
        refine ⟨z', hz', ?_⟩
        rcases List.mem_append.mp hy with hy | hy
        · cases (h.ends y hy _ _ hyo).2
          exact h'.start
        · rcases List.mem_cons.mp hy with rfl | hy
          · cases hx.symm.trans hyo
          · have hown := congrArg Load.first (h'.ends y hy _ _ hyo).1
            rw [hfirst] at hown
            cases hown
    outdated := fun us w vs k b heq hws hv v hmem => by
      have hw : w ∈ z :: rest ++ x :: z' :: rest' := by rw [heq]; simp
      obtain ⟨rfl, rfl, rfl⟩ := hsnd w hw k b hws
      have hout : (own.below k b).isOutdatedIn w.before = true := by
        rw [Load.isOutdatedIn_below]
        simpa using hv
      rcases List.mem_cons.mp (mem_of_append_eq heq.symm (fun hz => hfst w hz k b hws) hmem) with rfl | hmem
      · exact hf
      · exact h'.idle (Or.inr hout) v hmem
    site := fun hsite => by
      rw [hl] at hsite
      cases hsite }

end LoadAccount

/-- A call that cannot go on by itself keeps to the account. -/
theorem LoadsFrom.account {own : Load} {e : Endpoints} {xs : List Section} {a : Activity} (h : LoadsFrom own xs a)
    (ha : a.canAdvance = false) (hfirst : own.first = none)
    (he : ∀ x ∈ xs, ∀ l, (x.before.get l).endpoint = (e.get? l).filter (· ≠ "")) : LoadAccount own e xs := by
  have hcl := fun y hy m o => h.closes_of_mem (y := y) (m := m) (o := o) hy
  rcases h.leads_or_next ha with ⟨z, rest, outcome, rfl, hl, hn⟩ | ⟨z, rest, o, m, x, ys, rfl, hl, hn, hs, hf, hx, hm⟩
  · exact .of_leads hl hn hfirst (he z List.mem_cons_self _)
  · obtain ⟨w, hw, hwo⟩ := hl.ended o rfl
    have hc := hcl w (List.mem_append_left _ hw) own o hwo
    have hsite : own.level ≠ .site := fun hsite => by
      rw [(hc.site hsite).1, Load.next?_disabled] at hn
      cases hn
    obtain ⟨harea, n, b, rfl, rfl⟩ := Load.of_next?_first hn hsite hfirst
    -- racks are the last level, so the second load has no other one behind it
    rcases hm.leads_or_next ha with ⟨z', rest', outcome', rfl, hl', -⟩ | ⟨_, _, _, _, _, _, _, _, hn', _⟩
    · exact .of_leads_leads hl hl' harea hfirst (hc.value_ne n b rfl) hs hf hx (he z (by simp) _) (he z' (by simp) _)
    · rw [Load.next?_rack rfl] at hn'
      cases hn'

/-! ## Calls in a session -/

namespace Strand

variable {n : Nat} {call c : Call} {ys : List Section} {a : Activity} {y : Section}

/-- A call enters in its first section. -/
theorem eq_nil_of_entered (h : Strand n call ys a) (ha : a = .entered c) : ys = [] := by
  cases h with
  | nil => rfl
  | snoc _ hx =>
    cases hx with
    | own hadv => exact absurd ha (Activity.advance_ne_entered _ hadv c)
    | reply => cases ha

theorem eq_cons_of_entered (h : Strand n call ys a) (hy : y ∈ ys) (hs : y.start = .entered c) : ∃ zs, ys = y :: zs := by
  induction h with
  | nil => cases hy
  | @snoc ys x h _ _ _ ih =>
    rcases List.mem_append.mp hy with hy | hy
    · obtain ⟨zs, rfl⟩ := ih hy
      exact ⟨zs ++ [x], rfl⟩
    · rw [List.mem_singleton.mp hy] at hs ⊢
      exact ⟨[], by rw [h.eq_nil_of_entered hs]; rfl⟩

theorem call_of_mem (h : Strand n call ys a) : ∀ x ∈ ys, x.call = call := by
  induction h with
  | nil => exact fun x hx => absurd hx List.not_mem_nil
  | snoc _ _ _ hc ih =>
    rw [List.forall_mem_append, List.forall_mem_singleton]
    exact ⟨ih, hc⟩

end Strand

/-- A call that is asked to load a level changes nothing before it begins. -/
theorem Section.Runs.after_of_load {x : Section} {level : Level} {filter : String} {retain : Bool} (h : x.Runs)
    (hs : x.start = .entered (.load level filter retain)) : x.after = x.before := by
  cases h with
  | own ha => cases hs; rfl
  | reply => cases hs

/-- The first load of a call begins behind the section in which the call enters. -/
theorem Section.Runs.entered_of_begins {x : Section} {l : Load} (h : x.Runs) (hs : x.stop = .ready l)
    (hfirst : l.first = none) : ∃ c, x.start = .entered c := by
  cases h with
  | reply => cases hs
  | @own number call f a ha =>
    cases a with
    | entered c => exact ⟨c, rfl⟩
    | siteless retained => cases hs
    | ready load =>
      simp only [Activity.advance] at hs
      split at hs <;> cases hs
    | returned load outcome =>
      simp only [Activity.advance, Activity.goOn] at hs
      split at hs
      · next hn =>
        cases hs
        obtain ⟨_, _, _, hne⟩ := Load.of_next? hn
        exact absurd hfirst hne
      · cases hs
    | waiting p => cases ha
    | ended outcome => cases ha

namespace Course

variable {idle : Activity → Prop} {p q : Pool} {xs : List Section}

/-- Endpoints are the same at every section. -/
theorem before_endpoint (h : Course idle p xs q) (l : Level) :
    ∀ x ∈ xs, (x.before.get l).endpoint = (p.form.get l).endpoint := by
  intro x hx
  obtain ⟨us, vs, rfl⟩ := List.append_of_mem hx
  obtain ⟨r, _, hus, hb, _⟩ := h.cut
  rw [← hb]
  exact hus.endpoint_eq l

end Course

namespace Session

variable {σ : Type}

/-- **Loading a level keeps to its account and gives the outcome of the first load.** Take any session and a call in it
that begins to load a level, be it asked to or to restore the page or to report a pick, and let other calls start, in
gaps too, replies come and calls be dropped. The call asks for the level and then, if it restored an area, at most once
for the racks of it, which it does exactly if that area is still selected when their load begins and racks have an
endpoint; if another one is selected by then, the rest of the call changes nothing. While one of its requests waits the
call has not ended. When none does it has, once, unless it was dropped; and its result is the outcome of its first load,
which is the last outcome of the level when that load ended, unless the load was superseded or is one of sites. Sites
are refused, and the call changes nothing. -/
theorem load_reports_first (src : Source σ) (traffic : Traffic σ) (site area rack : Select) (endpoints : Endpoints)
    (events : List Event) {x : Section} {level : Level} {filter : String} {retain : Bool}
    (hx : x ∈ (fresh traffic site area rack endpoints).history src events)
    (hs : x.stop = Activity.begin level filter retain) :
    let s := (fresh traffic site area rack endpoints).after src events
    let own : Load := ⟨level, filter, retain, none⟩
    ∃ ys new, ((fresh traffic site area rack endpoints).history src events).filter (·.number = x.number) = x :: ys ∧
      s.ended = traffic.ended ++ new ∧ (x.start = .entered (.load level filter retain) → x.after = x.before) ∧
      LoadAccount own endpoints ys ∧
      ((∃ w ∈ s.waiting, w.number = x.number) → ∀ r, (x.number, r) ∉ new) ∧
      ((∀ w ∈ s.waiting, w.number ≠ x.number) → .cancel x.number ∉ events →
        ∃ o, new.filter (·.1 = x.number) = [(x.number, x.call.result o)]) ∧
      ∀ r, (x.number, r) ∈ new → ∃ y ∈ ys, ∃ o, r = x.call.result o ∧ y.Closes own o := by
  intro s own
  obtain ⟨call, a, new, hstrand, hadv, hwaits, hdone, hnew, hresult⟩ := strand_of_history src traffic site area rack
    endpoints events hx
  have hc : Course _ _ _ s.pool := course_history src (fresh traffic site area rack endpoints) events
  have hruns : x.Runs := ((fresh_ordered traffic site area rack endpoints).course hc).runs x hx
  have hmem : x ∈ ((fresh traffic site area rack endpoints).history src events).filter (·.number = x.number) :=
    List.mem_filter.mpr ⟨hx, decide_eq_true rfl⟩
  obtain ⟨c, hentered⟩ := hruns.entered_of_begins hs rfl
  obtain ⟨ys, hys⟩ := hstrand.eq_cons_of_entered hmem hentered
  obtain rfl : x.call = call := hstrand.call_of_mem x hmem
  have hloads : LoadsFrom own ys a := hstrand.loadsFrom hys hs
  have hends : ∀ y ∈ ys, ∀ l, (y.before.get l).endpoint = (endpoints.get? l).filter (· ≠ "") := fun y hy l => by
    have hy := List.mem_of_mem_filter (hys ▸ List.mem_cons_of_mem x hy)
    exact (hc.before_endpoint l y hy).trans (Form.endpoint_new site area rack endpoints l)
  have hmine : ∀ r, (x.number, r) ∈ new → (x.number, r) ∈ (a.ending? x.number x.call).toList := fun r hr => by
    rw [← hresult]
    exact List.mem_filter.mpr ⟨hr, decide_eq_true rfl⟩
  refine ⟨ys, new, hys, hnew, hruns.after_of_load, hloads.account hadv rfl hends, fun hw r hr => ?_,
    fun hno hcancel => ?_, fun r hr => ?_⟩
  · obtain ⟨p, rfl⟩ := hwaits hw
    cases hmine r hr
  · obtain ⟨o, rfl⟩ := hdone hno hcancel
    exact ⟨o, hresult⟩
  · have hend := hmine r hr
    cases a with
    | ended o =>
      cases List.mem_singleton.mp hend
      obtain ⟨y, hy, o', hyo, ho⟩ := hloads.report_of_ended rfl
      exact ⟨y, hy, o', congrArg x.call.result ho, hloads.closes_of_mem hy hyo⟩
    | _ => cases hend

/-- The areas of a site are loaded, and when they come, another area is picked before the racks of the restored one are
loaded. -/
def pickedBetween : List Event :=
  [.start (.load .area "5" true) none,
    .release 0 (.ok [⟨.number 12, "A"⟩, ⟨.number 13, "B"⟩]) (some (.areaChanged "13"))]

/-- The call asks for no racks and changes nothing more, but reports the area that it has restored. -/
theorem pickedBetween_reports_first :
    let s : Session Unit := fresh { source := () } ((Select.new "id_site").withValue "5")
      ((Select.new "id_area").withData Select.currentValueKey "12") (.new "id_rack") ⟨some "/areas/", some "/racks/"⟩
    let own : Load := ⟨.area, "5", true, none⟩
    let ys := ((s.history .holding pickedBetween).filter (·.number = 0)).tail
    ys.flatMap (·.stop.requests) = [⟨"/areas/", "site", "5"⟩] ∧
      (∃ us z vs, ys = us ++ z :: vs ∧ z.start = .ready (own.below 2 "12") ∧ z.before.area.select.value = "13" ∧
        ∀ w ∈ z :: vs, w.after = w.before) ∧
      ∃ y ∈ ys, y.Closes own (.populated 2 (some "12")) := by
  intro s own ys
  have hlen : 0 < (s.history .holding pickedBetween).length := by decide +kernel
  have hnumber : (s.history .holding pickedBetween)[0].number = 0 := by decide +kernel +revert
  have hcall : (s.history .holding pickedBetween)[0].call = .load .area "5" true := by decide +kernel +revert
  have hs : (s.history .holding pickedBetween)[0].stop = Activity.begin .area "5" true := by decide +kernel +revert
  have hyslen : ys.length = 5 := by decide +kernel
  have hcut : ys = ys.take 3 ++ ys[3] :: ys.drop 4 := by
    rw [List.getElem_cons_drop, List.take_append_drop]
  have hz : ys[3].start = .ready (own.below 2 "12") := by decide +kernel +revert
  have hv : ys[3].before.area.select.value = "13" := by decide +kernel +revert
  obtain ⟨zs, new, hzs, hnew, -, haccount, -, -, hreport⟩ := load_reports_first .holding { source := () } _ _ _ _
    pickedBetween (List.getElem_mem hlen) hs
  rw [hnumber] at hzs hreport
  rw [hcall] at hreport
  have hys : ys = zs := congrArg List.tail hzs
  rw [← hys] at haccount hreport
  have hended : (0, some (.populated 2 (some "12"))) ∈ (s.after .holding pickedBetween).ended := by decide +kernel
  rw [hnew] at hended
  obtain ⟨y, hy, o, ho, hc⟩ := hreport _ hended
  cases ho
  exact ⟨by decide +kernel, ⟨_, _, _, hcut, hz, hv, haccount.outdated _ _ _ _ _ hcut hz (by rw [hv]; decide)⟩,
    y, hy, hc⟩

end Session

end LinkedSelect
