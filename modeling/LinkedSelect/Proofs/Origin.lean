import LinkedSelect.Proofs.Superseding

/-!
# Where requests and options come from

A host that only restores the page and reports what was picked (`Call.isPick`) asks for the options of the selected
parent alone, and sees no areas but those of the selected site.

* `Activity.Fits` says what a call that is about to run knows about the form: the filter of its next load is the value
  of the parent. Calls that rest know nothing that another call could undo (`Activity.Fits.of_rests`).
* `Form.ShowsLast` is the link between a field, the requests that were sent and the value of the parent: the last
  request of the field carried that value, it belongs to the present generation, and if the field is populated it
  shows the reply to that very request.
* `Session.requests_follow_selection`: every request asks the endpoint of its field for the value that its parent has,
  and the areas on show are those of the selected site.
-/

namespace LinkedSelect

/-! ## What calls know -/

/-- What a call knows about the form where it stands. The filter of a load that begins next is the value of its parent,
except that a continued load, which looks again, need not know it. -/
def Activity.Fits (f : Form) : Activity → Prop
  | .ready load => load.filter ≠ "" ∧ (load.level = .area ∧ load.first = none ∧ f.site.select.value = load.filter ∨
      load.level = .rack ∧ (load.first = none → f.area.select.value = load.filter))
  | .waiting p => p.load.level ≠ .site
  | .returned load outcome => load.level ≠ .site ∧ ∀ n v, outcome = .populated n (some v) → v ≠ ""
  | _ => True

namespace Activity

variable {f : Form} {a : Activity}

/-- A call that rests knows nothing that a change of the form could undo. -/
theorem Fits.of_rests (h : a.Fits f) (hr : a.rests = true) (g : Form) : a.Fits g := by
  cases a with
  | waiting p => exact h
  | returned load outcome => exact h
  | entered call => cases hr
  | siteless retained => cases hr
  | ready load => cases hr
  | ended outcome => cases hr

theorem Fits.resume {p : Pending} (h : (waiting p).Fits f) (reply : Reply) :
    (Activity.resume f p reply).2.Fits (Activity.resume f p reply).1 := by
  by_cases hl : (f.get p.load.level).phase = .loading p.generation
  · rw [resume_of_loading hl]
    refine ⟨h, fun n v hv => ?_⟩
    cases reply with
    | ok choices =>
      simp only [Field.outcomeOf, Outcome.populated.injEq] at hv
      exact (Select.hit?_eq_some hv.2).2
    | error e => cases hv
  · rw [resume_of_not_loading hl]
    exact ⟨h, fun n v hv => by cases hv⟩

theorem Fits.goOn {load : Load} {outcome : Outcome} (h : (returned load outcome).Fits f) :
    (Activity.goOn load outcome).Fits f := by
  unfold Activity.goOn
  split
  · next next hn =>
    obtain ⟨n, rfl, hc, hfirst⟩ := Load.of_next? hn
    have hs := h.1
    refine ⟨h.2 n _ rfl, Or.inr ⟨?_, fun hf => absurd hf hfirst⟩⟩
    cases hlev : load.level with
    | site => exact absurd hlev hs
    | area => rw [hlev] at hc; exact (Option.some.inj hc).symm
    | rack => rw [hlev] at hc; cases hc
  · trivial

/-- A load that has begun knows nothing that depends on the form. -/
theorem fits_of_ready {load : Load} (hl : load.level ≠ .site) (f g : Form) : ((ready load).advance f).2.Fits g := by
  simp only [Activity.advance]
  split
  · next o ho => exact ⟨hl, fun n v hv => by
      have hb := Form.begins f load
      rw [ho] at hb
      cases hb <;> cases hv⟩
  · next p hp =>
    have hp := load_of_beginLoad hp
    show p.load.level ≠ .site
    rw [hp]
    exact hl

/-- A load that is about to begin is one of areas or of racks. -/
theorem Fits.level_ne_site {load : Load} (h : (ready load).Fits f) : load.level ≠ .site := by
  rcases h.2 with ⟨hl, _⟩ | ⟨hl, _⟩ <;> rw [hl] <;> decide

theorem Fits.advance (h : a.Fits f) (ha : a.canAdvance = true) (hc : ∀ c, a = .entered c → c.isPick = true) :
    (a.advance f).2.Fits (a.advance f).1 := by
  cases a with
  | entered call =>
    cases call with
    | restore =>
      simp only [advance, enter]
      split
      · trivial
      · next hv => exact ⟨hv, Or.inl ⟨rfl, rfl, rfl⟩⟩
    | siteChanged value =>
      simp only [advance, enter]
      split
      · trivial
      · next hv => exact ⟨hv, Or.inl ⟨rfl, rfl, rfl⟩⟩
    | areaChanged value =>
      simp only [advance, enter]
      split
      · trivial
      · next hv => exact ⟨hv, Or.inr ⟨rfl, fun _ => rfl⟩⟩
    | load level filter retain => exact absurd (hc _ rfl) (by simp [Call.isPick])
  | siteless retained => trivial
  | ready load => exact fits_of_ready h.level_ne_site f _
  | returned load outcome => exact h.goOn
  | waiting p => cases ha
  | ended outcome => cases ha

end Activity

/-! ## The last request of a field -/

namespace Field

/-- Generation, phase and entries of a field. -/
def display (x : Field) : Nat × Phase × List Entry :=
  (x.generation, x.phase, x.select.entries)

end Field

/-- The last request of a level, in `xs`, carried the value that the parent has; it belongs to the present generation
of the field; and a populated field shows the reply to that very request. -/
def Form.ShowsLast (f : Form) (xs : List Section) (l parent : Level) : Prop :=
  ∃ us x vs p, xs = us ++ x :: vs ∧ x.Asks p ∧ p.load.level = l ∧
    (∀ y ∈ vs, ∀ r, y.Asks r → r.load.level ≠ l) ∧
    p.request.value = (f.get parent).select.value ∧ p.generation = (f.get l).generation ∧
    ((f.get l).phase = .populated → ∃ y ∈ vs, ∃ reply, y.number = x.number ∧ y.Answers p reply ∧
      (f.get l).select.entries = Select.entriesOf (Field.choicesOf reply))

namespace Form.ShowsLast

variable {f g : Form} {xs : List Section} {l m : Level} {x : Section}

/-- The link stays while neither the field nor the value of the parent changes and no request of the field is sent. -/
theorem frame (h : f.ShowsLast xs l m) (hd : (g.get l).display = (f.get l).display)
    (hv : (g.get m).select.value = (f.get m).select.value) (hx : ∀ r, x.Asks r → r.load.level ≠ l) :
    g.ShowsLast (xs ++ [x]) l m := by
  obtain ⟨us, y, vs, p, rfl, hy, hl, hvs, hval, hg, hpop⟩ := h
  simp only [Field.display, Prod.mk.injEq] at hd
  refine ⟨us, y, vs ++ [x], p, by simp, hy, hl, ?_, by rw [hval, hv], by rw [hg, hd.1], fun hp => ?_⟩
  · rw [List.forall_mem_append, List.forall_mem_singleton]
    exact ⟨hvs, hx⟩
  · rw [hd.2.1] at hp
    obtain ⟨z, hz, reply, hn, ha, he⟩ := hpop hp
    exact ⟨z, List.mem_append_left _ hz, reply, hn, ha, by rw [hd.2.2, he]⟩

/-- A load that begins to wait for the value of the parent sets the link up. -/
theorem of_asks {p : Pending} (hr : x.Runs) (ha : x.Asks p)
    (hv : p.request.value = (x.after.get m).select.value) : x.after.ShowsLast (xs ++ [x]) p.load.level m := by
  obtain ⟨_, hg, hp⟩ := hr.asks_generation ha
  refine ⟨xs, x, [], p, rfl, ha, rfl, fun y hy => absurd hy List.not_mem_nil, hv, hg.symm, fun h => ?_⟩
  rw [hp] at h
  cases h

/-- A reply keeps the link: if it is applied it is the one to the last request. -/
theorem answers {q : Pool} {others : Multiset Thread} {p : Pending} {reply : Reply} (h : q.form.ShowsLast xs l m)
    (ho : q.Ordered xs) (hr : x.Runs) (hb : x.before = q.form)
    (ht : q.threads = x.entry ::ₘ others) (ha : x.Answers p reply)
    (hv : (x.after.get m).select.value = (q.form.get m).select.value) : x.after.ShowsLast (xs ++ [x]) l m := by
  have hask : ∀ r, ¬x.Asks r := fun r hr => by
    have := hr.1
    rw [ha.1] at this
    cases this
  rcases hr.get_of_answers ha l with he | ⟨hl, hph, he⟩
  · exact h.frame (by rw [he, hb]) hv fun r hr => absurd hr (hask r)
  · obtain ⟨us, y, vs, r, rfl, hy, hlev, hvs, hval, hg, _⟩ := h
    rw [hb] at hph he
    obtain ⟨z, hz, hzn, hzp⟩ := ho.asked x.entry (Pool.mem_of_eq_cons ht) p ha.1
    have hgen : p.generation = r.generation := by rw [hg, ho.timely l _ hph]
    have hyz : y = z := ho.eq_of_asks (by simp) hz hy hzp (hlev.trans hl) hgen.symm
    subst hyz
    have hpr : p = r := Activity.waiting.inj (hzp.2.symm.trans hy.2)
    subst hpr
    refine ⟨us, y, vs ++ [x], p, by simp, hy, hlev, ?_, by rw [hval, hv], by rw [hg, he]; rfl, fun _ => ?_⟩
    · rw [List.forall_mem_append, List.forall_mem_singleton]
      exact ⟨hvs, fun r hr => absurd hr (hask r)⟩
    · exact ⟨x, List.mem_append_right _ (List.mem_singleton_self x), reply, hzn.symm, ha, by rw [he]; rfl⟩

end Form.ShowsLast

/-! ## The areas and the selected site -/

/-- The next section of the call disables the areas or loads them. -/
def Activity.bindsAreas : Activity → Bool
  | .siteless _ => true
  | .ready load => load.level = .area
  | _ => false

theorem Activity.bindsAreas_of_rests {a : Activity} (h : a.rests = true) : a.bindsAreas = false := by
  cases a <;> first | rfl | cases h

theorem Activity.bindsAreas_of_canAdvance {a : Activity} (h : a.canAdvance = false) : a.bindsAreas = false := by
  cases a <;> first | rfl | cases h

/-- The call restores the page or a site was picked. -/
def Call.looksAtSite : Call → Bool
  | .restore | .siteChanged _ => true
  | _ => false

/-- A call that looks at the site starts in this section. -/
def Section.LooksAtSite (x : Section) : Prop :=
  ∃ c, x.start = .entered c ∧ c.looksAtSite = true

/-- What a section of a call that fits comes to for the areas: they are about to be disabled or loaded, or they are
disabled, or a load of them begins to wait for the value of the site, or they stay as they are under the same site. -/
theorem Activity.areas_of_fits {f : Form} {a : Activity} (h : a.Fits f) (ha : a.canAdvance = true)
    (hc : ∀ c, a = .entered c → c.isPick = true) :
    (a.advance f).2.bindsAreas = true ∨ (a.advance f).1.area.phase = .disabled ∨
      (∃ p, a = .ready p.load ∧ (a.advance f).2 = .waiting p ∧ p.load.level = .area ∧
        p.request.value = (a.advance f).1.site.select.value) ∨
      a.bindsAreas = false ∧ (∀ c, a = .entered c → c.looksAtSite = false) ∧
        (a.advance f).1.area.display = f.area.display ∧
        (a.advance f).1.site.select.value = f.site.select.value := by
  cases a with
  | entered call =>
    cases call with
    | restore =>
      left
      simp only [advance, enter]
      split <;> rfl
    | siteChanged value =>
      simp only [advance, enter]
      split
      · exact Or.inr (Or.inl rfl)
      · exact Or.inl rfl
    | areaChanged value =>
      right; right; right
      refine ⟨rfl, fun c h => (by cases h; rfl), ?_, ?_⟩
      · simp only [advance, enter]
        split <;> rfl
      · simp only [advance, enter]
        split <;> rfl
    | load level filter retain => exact absurd (hc _ rfl) (by simp [Call.isPick])
  | siteless retained =>
    right; left
    simp only [advance]
    split <;> rfl
  | ready load =>
    rcases h.2 with ⟨hl, hfirst, hv⟩ | ⟨hl, _⟩
    · right
      have ho : f.isOutdated load .site = false := by simp [Form.isOutdated, hfirst]
      simp only [advance]
      rcases Form.beginLoad_eq (by rw [hl]; rfl) ho with ⟨_, hb⟩ | ⟨endpoint, _, hb⟩
      · left
        rw [hb, hl]
        rfl
      · right; left
        rw [hb]
        refine ⟨_, rfl, rfl, hl, ?_⟩
        simp only [← hv, hl]
        rfl
    · right; right; right
      refine ⟨by simp [bindsAreas, hl], fun c h => (by cases h), ?_⟩
      have hb := Form.begins f load
      simp only [advance]
      generalize f.beginLoad load = r at hb ⊢
      cases hb with
      | parentless => exact ⟨rfl, rfl⟩
      | outdated => exact ⟨rfl, rfl⟩
      | declined => rw [hl]; exact ⟨rfl, rfl⟩
      | waits => rw [hl]; exact ⟨rfl, rfl⟩
  | returned load outcome =>
    right; right; right
    exact ⟨rfl, fun c h => (by cases h), rfl, rfl⟩
  | waiting p => cases ha
  | ended outcome => cases ha

/-- If in `xs` a call has looked at the site, areas are on show, or will be, only under the site whose areas were asked
for last. -/
def Form.ShowsAreas (f : Form) (xs : List Section) : Prop :=
  (∃ x ∈ xs, x.LooksAtSite) → f.area.phase ≠ .disabled → f.ShowsLast xs .area .site

namespace Section

variable {x : Section} {xs : List Section}

/-- What a call knows holds after its section if it held before. -/
theorem Runs.fits (h : x.Runs) (hf : x.start.Fits x.before) (hc : ∀ c, x.start = .entered c → c.isPick = true) :
    x.stop.Fits x.after := by
  cases h with
  | own ha => exact hf.advance ha hc
  | reply => exact hf.resume _

theorem Answers.not_looksAtSite {p : Pending} {reply : Reply} (ha : x.Answers p reply) : ¬x.LooksAtSite := by
  rintro ⟨c, hc, _⟩
  rw [ha.1] at hc
  cases hc

/-- A section in which no call looks at the site is none of those that do. -/
theorem exists_looksAtSite (hn : ¬x.LooksAtSite) (h : ∃ y ∈ xs ++ [x], y.LooksAtSite) : ∃ y ∈ xs, y.LooksAtSite := by
  obtain ⟨y, hy, hl⟩ := h
  rcases List.mem_append.mp hy with hy | hy
  · exact ⟨y, hy, hl⟩
  · rw [List.mem_singleton.mp hy] at hl
    exact absurd hl hn

end Section

namespace Form.ShowsAreas

variable {x : Section} {xs : List Section}

/-- A section of a call's own leaves the areas to the site, unless it leaves a call that is about to load or to disable
them. -/
theorem own (h : x.start.bindsAreas = false → x.before.ShowsAreas xs) (hx : x.Runs) (hr : x.reply = none)
    (hf : x.start.Fits x.before) (hc : ∀ c, x.start = .entered c → c.isPick = true)
    (hb : x.stop.bindsAreas = false) : x.after.ShowsAreas (xs ++ [x]) := by
  intro hl hp
  obtain ⟨hadv, hafter, hs⟩ := hx.after_eq hr
  have hcases := Activity.areas_of_fits hf hadv hc
  rw [← Activity.replay_deeds, ← hafter, ← hs] at hcases
  rcases hcases with hcase | hcase | ⟨p, hs₁, hs₂, hlev, hv⟩ | ⟨hsb, hsl, hd, hv⟩
  · rw [hcase] at hb
    cases hb
  · exact absurd hcase hp
  · have hl : x.after.ShowsLast (xs ++ [x]) p.load.level .site := .of_asks hx ⟨hs₁, hs₂⟩ hv
    rwa [hlev] at hl
  · have hph : x.before.area.phase ≠ .disabled := fun hd' => hp ((congrArg (·.2.1) hd).trans hd')
    have hn : ¬x.LooksAtSite := fun ⟨c, hc, hcl⟩ => by simp [hsl c hc] at hcl
    refine (h hsb (Section.exists_looksAtSite hn hl) hph).frame hd hv fun r hr hlev => ?_
    simp [hr.1, Activity.bindsAreas, hlev] at hsb

/-- A reply leaves the areas to the site. -/
theorem answers {q : Pool} {others : Multiset Thread} {p : Pending} {reply : Reply} (h : q.form.ShowsAreas xs)
    (ho : q.Ordered xs) (hx : x.Runs) (hb : x.before = q.form) (ht : q.threads = x.entry ::ₘ others)
    (hr : x.Answers p reply) (hl : p.load.level ≠ .site) : x.after.ShowsAreas (xs ++ [x]) := by
  intro hlooks hp
  have hsite : x.after.get .site = x.before.get .site := hx.get_of_answers_ne hr hl
  have hph : q.form.area.phase ≠ .disabled := by
    rw [← hb]
    exact hx.phase_of_answers (l := .area) hr hp
  refine (h (Section.exists_looksAtSite hr.not_looksAtSite hlooks) hph).answers ho hx hb ht hr ?_
  rw [hsite, hb]

end Form.ShowsAreas

/-- What calls know holds, and while no call is about to load or disable the areas, those of the selected site are on
show. -/
structure Pool.FollowsSite (q : Pool) (xs : List Section) : Prop where
  fits : ∀ t ∈ q.threads, t.activity.Fits q.form
  shows : (∀ t ∈ q.threads, t.activity.bindsAreas = false) → q.form.ShowsAreas xs

namespace Pool.FollowsSite

variable {p q : Pool} {xs ys : List Section}

theorem of_threads_eq_zero (ht : q.threads = 0) : q.FollowsSite [] where
  fits t hm := by rw [ht] at hm; exact absurd hm (Multiset.notMem_zero t)
  shows _ := fun ⟨x, hx, _⟩ => absurd hx List.not_mem_nil

theorem start (h : q.FollowsSite xs) (call : Call) : Pool.FollowsSite
    { q with started := q.started + 1, threads := ⟨q.started, call, .entered call⟩ ::ₘ q.threads } xs where
  fits t ht := by
    rcases Multiset.mem_cons.mp ht with rfl | ht
    · trivial
    · exact h.fits t ht
  shows hb := h.shows fun t ht => hb t (Multiset.mem_cons_of_mem ht)

theorem leave {gone others : Multiset Thread} (h : q.FollowsSite xs) (ht : q.threads = gone + others)
    (hg : ∀ t ∈ gone, t.activity.canAdvance = false) : Pool.FollowsSite { q with threads := others } xs where
  fits t hm := h.fits t (Pool.mem_of_mem_rest ht hm)
  shows hb := h.shows (Pool.forall_of_eq_add ht (fun t hm => Activity.bindsAreas_of_canAdvance (hg t hm)) hb)

theorem act {x : Section} {others : Multiset Thread} (h : q.FollowsSite xs) (ho : q.Ordered xs) (hx : x.Runs)
    (hb : x.before = q.form) (ht : q.threads = x.entry ::ₘ others)
    (hi : ∀ t ∈ others, t.activity.rests = true) (hc : ∀ c, x.start = .entered c → c.isPick = true) :
    Pool.FollowsSite { q with form := x.after, threads := x.exit ::ₘ others } (xs ++ [x]) := by
  have hfit : x.start.Fits x.before := by
    rw [hb]
    exact h.fits x.entry (Pool.mem_of_eq_cons ht)
  -- the areas were in order if the call that runs was not about to load or disable them
  have hold : x.start.bindsAreas = false → q.form.ShowsAreas xs := fun hs =>
    h.shows (Pool.forall_of_eq_cons ht hs fun t hm => Activity.bindsAreas_of_rests (hi t hm))
  constructor
  · intro t hm
    rcases Multiset.mem_cons.mp hm with rfl | hm
    · exact hx.fits hfit hc
    · exact (h.fits t (Pool.mem_of_mem_others ht hm)).of_rests (hi t hm) _
  · intro hbinds
    rcases hx.own_or_answers with hr | ⟨p, reply, hr⟩
    · rw [← hb] at hold
      exact .own hold hx hr hfit hc (hbinds x.exit (Multiset.mem_cons_self _ _))
    · rw [hr.1] at hfit hold
      exact (hold rfl).answers ho hx hb ht hr hfit

/-- Every course of calls that restore or report what was picked keeps the areas to the site. -/
theorem course (h : p.FollowsSite xs) (ho : p.Ordered xs) (hc : Course (·.rests = true) p ys q)
    (hp : ∀ x ∈ ys, ∀ c, x.start = .entered c → c.isPick = true) : q.FollowsSite (xs ++ ys) := by
  induction hc with
  | nil => rw [List.append_nil]; exact h
  | start call _ _ ih => exact (ih hp).start call
  | leave _ ht hg ih => exact (ih hp).leave ht hg
  | @act zs q x others hc hx hb ht hi ih =>
    rw [List.forall_mem_append, List.forall_mem_singleton] at hp
    rw [← List.append_assoc]
    exact (ih hp.1).act (ho.course hc) hx hb ht hi hp.2

end Pool.FollowsSite

/-! ## Requests -/

/-- The endpoint that was given for a level. -/
def Endpoints.get? (e : Endpoints) : Level → Option String
  | .site => none
  | .area => e.areas
  | .rack => e.racks

theorem Form.endpoint_new (site area rack : Select) (endpoints : Endpoints) (l : Level) :
    ((Form.new site area rack endpoints).get l).endpoint = (endpoints.get? l).filter (· ≠ "") := by
  cases l <;> rfl

/-- A load that is not outdated filters by the value of the parent: if it continues another one it has just looked, and
else it was told. -/
theorem Form.value_of_isOutdated {f : Form} {load : Load} {parent : Level}
    (hv : load.first = none → (f.get parent).select.value = load.filter) (ho : f.isOutdated load parent = false) :
    (f.get parent).select.value = load.filter := by
  cases hfirst : load.first with
  | none => exact hv hfirst
  | some o =>
    simp only [Form.isOutdated, hfirst, Option.isSome_some, Bool.true_and, bne_eq_false_iff_eq] at ho
    exact ho

/-- The load asks the endpoint of its field for the value that the parent has, and neither is empty. -/
def Pending.FollowsSelection (p : Pending) (endpoints : Endpoints) (f : Form) : Prop :=
  p.request.value ≠ "" ∧ p.request.endpoint ≠ "" ∧ endpoints.get? p.load.level = some p.request.endpoint ∧
    ∃ parent, p.load.level.parent? = some parent ∧ p.request.param = parent.name ∧
      p.request.value = (f.get parent).select.value

namespace Section

variable {x : Section} {p : Pending}

theorem Runs.endpoint_eq (h : x.Runs) (l : Level) : (x.after.get l).endpoint = (x.before.get l).endpoint := by
  rcases h.own_or_answers with hr | ⟨p, reply, ha⟩
  · rw [(h.after_eq hr).2.1]
    exact Form.endpoint_replay _ _ l
  · rcases h.get_of_answers ha l with he | ⟨_, _, he⟩
    · rw [he]
    · rw [he]; rfl

/-- The parameter of a request tells the level of its load. -/
theorem Runs.param_eq_iff {l m : Level} (h : x.Runs) (ha : x.Asks p) (hm : l.parent? = some m) :
    p.request.param = m.name ↔ p.load.level = l := by
  obtain ⟨parent, endpoint, hp, _, _, hr, _⟩ := h.asks_inv ha
  rw [hr]
  cases hl : p.load.level <;> rw [hl] at hp <;> cases hp <;> cases l <;> cases hm <;> simp [Level.name]

/-- The requests of a section are those of the load that begins to wait in it. -/
theorem Runs.asks_of_mem {r : Request} (h : x.Runs) (hr : r ∈ x.stop.requests) : ∃ p, x.Asks p ∧ p.request = r := by
  cases hs : x.stop with
  | waiting p =>
    rw [hs] at hr
    exact ⟨p, h.asks_of_stop hs, (List.mem_singleton.mp hr).symm⟩
  | entered call => rw [hs] at hr; cases hr
  | siteless retained => rw [hs] at hr; cases hr
  | ready load => rw [hs] at hr; cases hr
  | returned load outcome => rw [hs] at hr; cases hr
  | ended outcome => rw [hs] at hr; cases hr

/-- A load that begins to wait, in a call that fits, asks for the value of the parent. -/
theorem Runs.followsSelection {endpoints : Endpoints} (h : x.Runs) (ha : x.Asks p) (hf : x.start.Fits x.before)
    (he : (x.before.get p.load.level).endpoint = (endpoints.get? p.load.level).filter (· ≠ "")) :
    p.FollowsSelection endpoints x.after := by
  obtain ⟨parent, endpoint, hp, ho, hend, hr, _, _, hafter⟩ := h.asks_inv ha
  rw [ha.1] at hf
  have hfield : (x.before.get p.load.level).endpoint = some endpoint := by
    rw [Form.endpoint?, if_neg hf.1] at hend
    exact hend
  rw [he] at hfield
  obtain ⟨hget, hne⟩ := Option.filter_eq_some_iff.mp hfield
  refine ⟨by rw [hr]; exact hf.1, by rw [hr]; simpa using hne, by rw [hr]; exact hget, parent, hp, by rw [hr], ?_⟩
  rw [hr, hafter]
  rcases hf.2 with ⟨hl, _, hv⟩ | ⟨hl, hv⟩
  · rw [hl] at hp ⊢
    cases hp
    exact hv.symm
  · rw [hl] at hp ⊢
    cases hp
    exact (Form.value_of_isOutdated hv ho).symm

end Section

namespace Course

variable {idle : Activity → Prop} {p q : Pool} {xs : List Section}

theorem endpoint_eq (h : Course idle p xs q) (l : Level) : (q.form.get l).endpoint = (p.form.get l).endpoint := by
  induction h with
  | nil => rfl
  | start _ _ _ ih => exact ih
  | leave _ _ _ ih => exact ih
  | act _ hx hb _ _ ih => exact (hx.endpoint_eq l).trans (hb ▸ ih)

end Course

/-- The last request of a field carried the value of the parent, if the field is linked to it. -/
theorem Form.ShowsLast.last_request_of {f : Form} {xs : List Section} {l m : Level} (h : f.ShowsLast xs l m)
    (hm : l.parent? = some m) (hr : ∀ x ∈ xs, x.Runs) :
    ((xs.flatMap (·.stop.requests)).filter (·.param = m.name)).getLast?.map (·.value) =
      some (f.get m).select.value := by
  obtain ⟨us, x, vs, p, rfl, ha, hl, hvs, hval, _, _⟩ := h
  have hparam : p.request.param = m.name := ((hr x (by simp)).param_eq_iff ha hm).mpr hl
  have hlater : (vs.flatMap (·.stop.requests)).filter (·.param = m.name) = [] := by
    refine List.filter_eq_nil_iff.mpr fun r hmem => ?_
    obtain ⟨y, hy, hmem⟩ := List.mem_flatMap.mp hmem
    have hy' := hr y (by simp [hy])
    obtain ⟨p', hp', rfl⟩ := hy'.asks_of_mem hmem
    simpa only [decide_eq_true_eq, hy'.param_eq_iff hp' hm] using hvs y hy p' hp'
  have hreq : x.stop.requests = [p.request] := by rw [ha.2]; rfl
  rw [List.flatMap_append, List.flatMap_cons, List.filter_append, List.filter_append, hlater, hreq, List.append_nil,
    List.filter_cons_of_pos (by simpa using hparam), List.filter_nil, List.getLast?_concat]
  exact congrArg some hval

/-- The last request for areas, if the areas are those of the site that was looked at. -/
theorem Form.ShowsLast.last_request {f : Form} {xs : List Section} (h : f.ShowsLast xs .area .site)
    (hr : ∀ x ∈ xs, x.Runs) :
    ((xs.flatMap (·.stop.requests)).filter (·.param = "site")).getLast?.map (·.value) =
      some f.site.select.value :=
  h.last_request_of rfl hr

namespace Session

variable {σ : Type} (src : Source σ)

/-- In a session nothing is about to load or to disable the areas between two events. -/
theorem bindsAreas_of_mem_pool (s : Session σ) : ∀ t ∈ s.pool.threads, t.activity.bindsAreas = false := fun t ht =>
  Activity.bindsAreas_of_rests (rests_of_mem (fun t ht => absurd ht (Multiset.notMem_zero t)) t ht)

/-- **Requests and areas follow the selection.** A host that restores the page and reports what was picked, and nothing
else, sends no request but to the endpoint of the field for the value that the parent has at that moment, and neither
is empty. Once a call has looked at the site, areas are shown, or waited for, only if the last request for areas was
for the site that is selected, and the areas on show are those of the reply to that very request: this holds after
all events, and before every section except one that is itself about to load or to disable the areas. -/
theorem requests_follow_selection (traffic : Traffic σ) (site area rack : Select) (endpoints : Endpoints)
    (events : List Event) (h : ∀ e ∈ events, ∀ c ∈ e.calls, c.isPick = true) :
    let s := (fresh traffic site area rack endpoints).after src events
    let xs := (fresh traffic site area rack endpoints).history src events
    (∀ x ∈ xs, ∀ p, x.Asks p → p.FollowsSelection endpoints x.after) ∧
      (∀ us x vs, xs = us ++ x :: vs → x.start.bindsAreas = false → x.before.ShowsAreas us) ∧
      s.form.ShowsAreas xs ∧
      ((∃ x ∈ xs, x.LooksAtSite) → s.form.area.phase ≠ .disabled →
        (s.requests.filter (·.param = "site")).getLast?.map (·.value) = some s.form.site.select.value) := by
  intro s xs
  have hc : Course _ _ xs s.pool := course_history src (fresh traffic site area rack endpoints) events
  have hpick : ∀ x ∈ xs, ∀ c, x.start = .entered c → c.isPick = true := fun x hx c hxc => by
    obtain ⟨e, he, hm⟩ := entered_of_history src _ events x hx c hxc
    exact h e he c hm
  have ho := fresh_ordered traffic site area rack endpoints
  have h₀ : (fresh traffic site area rack endpoints).pool.FollowsSite [] := .of_threads_eq_zero rfl
  have hcut : ∀ us x vs, xs = us ++ x :: vs → ∃ q others, Pool.FollowsSite q us ∧ q.form = x.before ∧ x.Runs ∧
      q.threads = x.entry ::ₘ others ∧ (∀ t ∈ others, t.activity.rests = true) ∧
      ∀ l, (x.before.get l).endpoint = (endpoints.get? l).filter (· ≠ "") := by
    intro us x vs hxs
    rw [hxs] at hc hpick
    obtain ⟨q, others, hq, hb, hx, ht, hi, _⟩ := hc.cut
    rw [List.forall_mem_append] at hpick
    refine ⟨q, others, h₀.course ho hq hpick.1, hb, hx, ht, hi, fun l => ?_⟩
    rw [← hb, hq.endpoint_eq l]
    exact Form.endpoint_new site area rack endpoints l
  have hend : s.form.ShowsAreas xs := (h₀.course ho hc hpick).shows s.bindsAreas_of_mem_pool
  refine ⟨fun x hx p hp => ?_, fun us x vs hxs hbinds => ?_, hend, fun hl hph => ?_⟩
  · obtain ⟨us, vs, hxs⟩ := List.append_of_mem hx
    obtain ⟨q, others, hq, hb, hx, ht, _, he⟩ := hcut us x vs hxs
    refine hx.followsSelection hp ?_ (he _)
    rw [← hb]
    exact hq.fits x.entry (Pool.mem_of_eq_cons ht)
  · obtain ⟨q, others, hq, hb, _, ht, hi, _⟩ := hcut us x vs hxs
    rw [← hb]
    refine hq.shows fun t hm => ?_
    rw [ht] at hm
    rcases Multiset.mem_cons.mp hm with rfl | hm
    · exact hbinds
    · exact Activity.bindsAreas_of_rests (hi t hm)
  · have hlast := (hend hl hph).last_request (ho.course hc).runs
    have hreq : s.requests = traffic.requests ++ xs.flatMap (·.stop.requests) := requests_after src _ events
    obtain ⟨r, hr, hrv⟩ := Option.map_eq_some_iff.mp hlast
    rw [hreq, List.filter_append, List.getLast?_append, hr, ← hrv]
    rfl

/-- A page with a site: while its areas come, another site is picked, and then the areas of that one come. -/
def revised : List Event :=
  [.start .restore none, .release 0 (.ok [⟨.number 12, "A"⟩]) (some (.siteChanged "6")),
    .release 1 (.ok [⟨.number 13, "B"⟩]) none]

theorem revised_follows_selection :
    let s₀ : Session Unit := fresh { source := () } ((Select.new "id_site").withValue "5") (.new "id_area")
      (.new "id_rack") ⟨some "/areas/", some "/racks/"⟩
    let s := s₀.after .holding revised
    (∀ e ∈ revised, ∀ c ∈ e.calls, c.isPick = true) ∧ (∃ x ∈ s₀.history .holding revised, x.LooksAtSite) ∧
      s.form.area.phase = .populated ∧
      (s.requests.filter (·.param = "site")).getLast?.map (·.value) = some s.form.site.select.value := by
  intro s₀ s
  have hcalls : ∀ e ∈ revised, ∀ c ∈ e.calls, c.isPick = true := by decide +kernel
  have hhead : (s₀.history .holding revised).head?.map (·.start) = some (.entered .restore) := by decide +kernel
  have hphase : s.form.area.phase = .populated := by decide +kernel
  obtain ⟨x, hx, hstart⟩ := Option.map_eq_some_iff.mp hhead
  have hlooks : ∃ x ∈ s₀.history .holding revised, x.LooksAtSite :=
    ⟨x, List.mem_of_mem_head? hx, .restore, hstart, rfl⟩
  refine ⟨hcalls, hlooks, hphase, ?_⟩
  refine (requests_follow_selection .holding _ _ _ _ _ revised hcalls).2.2.2 hlooks fun hd => ?_
  rw [show s.form.area.phase = .populated from hphase] at hd
  cases hd

end Session

end LinkedSelect
