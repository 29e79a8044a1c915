import LinkedSelect.Proofs.Origin

/-!
# Racks of the selected area

A page can only report an area that its select shows. If hosts keep to that, the racks on show are those of the area
that is selected.

* While the areas are disabled or loading, none of them is offered and the racks are disabled (`Form.Unoffered`). So no
  load of racks, be it a new one or one that continues a restored area, can begin under areas that are loaded anew:
  such a load has a filter, and the areas have no value.
* `Activity.areas_offered` and `Activity.racks_of_fits` say what a section comes to for the areas and for the racks.
* `Session.racks_follow_selection`: racks are shown, or waited for, only if the last request for racks was for the
  selected area, and the racks on show are those of the reply to it.
-/

namespace LinkedSelect

/-- No area is selected, none is offered, and the racks are disabled. -/
structure Form.Unoffered (f : Form) : Prop where
  value : f.area.select.value = ""
  entries : f.area.select.entries = [.placeholder]
  racks : f.rack.phase = .disabled

/-- The area that a call picks in its next section, if it picks one. -/
def Activity.picked? : Activity → Option String
  | .entered (.areaChanged value) => some value
  | _ => none

/-- If an area is picked in this section, it is one of those on show. -/
def Section.PicksOffered (x : Section) : Prop :=
  ∀ v ∈ x.start.picked?, ∃ e ∈ x.before.area.select.entries, e.value = v

instance (x : Section) : Decidable x.PicksOffered :=
  inferInstanceAs (Decidable (∀ v ∈ _, ∃ e ∈ _, _))

/-- If in `xs` a call has looked at the site, areas that are not populated are not offered. -/
def Form.OffersPopulated (f : Form) (xs : List Section) : Prop :=
  (∃ x ∈ xs, x.LooksAtSite) → f.area.phase ≠ .populated → f.Unoffered

/-- If in `xs` a call has looked at the site, racks are on show, or will be, only under the area whose racks were asked
for last. -/
def Form.ShowsRacks (f : Form) (xs : List Section) : Prop :=
  (∃ x ∈ xs, x.LooksAtSite) → f.rack.phase ≠ .disabled → f.ShowsLast xs .rack .area

/-- The next section of the call disables the racks or loads them, whatever area is selected. -/
def Activity.bindsRacks : Activity → Bool
  | .siteless _ => true
  | .ready load => load.first.isNone
  | _ => false

/-! ## What a section comes to -/

namespace Activity

variable {f : Form} {a : Activity}

theorem bindsRacks_of_rests (h : a.rests = true) : a.bindsRacks = false := by
  cases a <;> first | rfl | cases h

theorem bindsRacks_of_canAdvance (h : a.canAdvance = false) : a.bindsRacks = false := by
  cases a <;> first | rfl | cases h

/-- What a section of a call that fits comes to for the areas: they are about to be disabled or loaded, or now they are
not offered, or they stay as they are. In the last case their value may have been picked, and racks are loaded only
under an area that is selected. -/
theorem areas_offered (h : a.Fits f) (ha : a.canAdvance = true) (hc : ∀ c, a = .entered c → c.isPick = true) :
    (a.advance f).2.bindsAreas = true ∨ (a.advance f).1.Unoffered ∨
      a.bindsAreas = false ∧ (∀ c, a = .entered c → c.looksAtSite = false) ∧
        (a.advance f).1.area.display = f.area.display ∧
        ((a.advance f).1.area.select.value = f.area.select.value ∨
          a = .entered (.areaChanged (a.advance f).1.area.select.value)) ∧
        ((a.advance f).1.rack.phase = .disabled ∨ (a.advance f).1.rack.phase = f.rack.phase ∨
          f.area.select.value ≠ "") := by
  cases a with
  | entered call =>
    cases call with
    | restore =>
      left
      simp only [advance, enter]
      split <;> rfl
    | siteChanged value =>
      simp only [advance, enter]
      split
      · exact Or.inr (Or.inl ⟨rfl, rfl, rfl⟩)
      · exact Or.inl rfl
    | areaChanged value =>
      right; right
      refine ⟨rfl, fun c h => (by cases h; rfl), ?_⟩
      simp only [advance, enter]
      split
      · exact ⟨rfl, Or.inr rfl, Or.inl rfl⟩
      · exact ⟨rfl, Or.inr rfl, Or.inr (Or.inl rfl)⟩
    | load level filter retain => exact absurd (hc _ rfl) (by simp [Call.isPick])
  | siteless retained =>
    right; left
    simp only [advance]
    split <;> exact ⟨rfl, rfl, rfl⟩
  | ready load =>
    rcases h.2 with ⟨hl, hfirst, _⟩ | ⟨hl, hv⟩
    · right; left
      have ho : f.isOutdated load .site = false := by simp [Form.isOutdated, hfirst]
      simp only [advance]
      rcases Form.beginLoad_eq (by rw [hl]; rfl) ho with ⟨_, hb⟩ | ⟨endpoint, _, hb⟩
      · rw [hb, hl]
        exact ⟨rfl, rfl, rfl⟩
      · rw [hb, hl]
        exact ⟨rfl, rfl, rfl⟩
    · right; right
      refine ⟨by simp [bindsAreas, hl], fun c h => (by cases h), ?_⟩
      have hb := Form.begins f load
      simp only [advance]
      generalize f.beginLoad load = r at hb ⊢
      cases hb with
      | parentless => exact ⟨rfl, Or.inl rfl, Or.inr (Or.inl rfl)⟩
      | outdated => exact ⟨rfl, Or.inl rfl, Or.inr (Or.inl rfl)⟩
      | declined => rw [hl]; exact ⟨rfl, Or.inl rfl, Or.inl rfl⟩
      | @waits parent _ hp ho =>
        rw [hl] at hp ⊢
        cases hp
        have hvalue : f.area.select.value = load.filter := Form.value_of_isOutdated hv ho
        exact ⟨rfl, Or.inl rfl, Or.inr (Or.inr (by rw [hvalue]; exact h.1))⟩
  | returned load outcome =>
    right; right
    exact ⟨rfl, fun c h => (by cases h), rfl, Or.inl rfl, Or.inr (Or.inl rfl)⟩
  | waiting p => cases ha
  | ended outcome => cases ha

/-- What a section of a call that fits comes to for the racks: they are about to be disabled or loaded, or they are
disabled, or a load of them begins to wait for the value of the area, or they stay as they are under the same area. -/
theorem racks_of_fits (h : a.Fits f) (ha : a.canAdvance = true) (hc : ∀ c, a = .entered c → c.isPick = true) :
    (a.advance f).2.bindsRacks = true ∨ (a.advance f).1.rack.phase = .disabled ∨
      (∃ p, a = .ready p.load ∧ (a.advance f).2 = .waiting p ∧ p.load.level = .rack ∧
        p.request.value = (a.advance f).1.area.select.value) ∨
      a.bindsRacks = false ∧ (∀ c, a = .entered c → c.looksAtSite = false) ∧ (∀ p, (a.advance f).2 ≠ .waiting p) ∧
        (a.advance f).1.rack.display = f.rack.display ∧
        (a.advance f).1.area.select.value = f.area.select.value := by
  cases a with
  | entered call =>
    cases call with
    | restore =>
      left
      simp only [advance, enter]
      split <;> rfl
    | siteChanged value =>
      simp only [advance, enter]
      split
      · exact Or.inr (Or.inl rfl)
      · exact Or.inl rfl
    | areaChanged value =>
      simp only [advance, enter]
      split
      · exact Or.inr (Or.inl rfl)
      · exact Or.inl rfl
    | load level filter retain => exact absurd (hc _ rfl) (by simp [Call.isPick])
  | siteless retained =>
    right; left
    simp only [advance]
    split <;> rfl
  | ready load =>
    right
    have hb := Form.begins f load
    simp only [advance]
    rcases h.2 with ⟨hl, hfirst, _⟩ | ⟨hl, hv⟩
    · -- a load of areas disables the racks
      left
      have ho : f.isOutdated load .site = false := by simp [Form.isOutdated, hfirst]
      rcases Form.beginLoad_eq (by rw [hl]; rfl) ho with ⟨_, hb⟩ | ⟨endpoint, _, hb⟩
      · rw [hb, hl]
        rfl
      · rw [hb, hl]
        rfl
    · generalize f.beginLoad load = r at hb ⊢
      cases hb with
      | parentless hp =>
        rw [hl] at hp
        cases hp
      | @outdated parent hp ho =>
        right; right
        refine ⟨?_, fun c h => (by cases h), fun p h => (by cases h), rfl, rfl⟩
        simp only [Form.isOutdated, Bool.and_eq_true] at ho
        simpa [bindsRacks] using ho.1
      | declined => exact Or.inl (by rw [hl]; rfl)
      | @waits parent _ hp ho =>
        right; left
        refine ⟨_, rfl, rfl, hl, ?_⟩
        rw [hl] at hp ⊢
        cases hp
        exact (Form.value_of_isOutdated hv ho).symm
  | returned load outcome =>
    right; right; right
    refine ⟨rfl, fun c h => (by cases h), fun p h => ?_, rfl, rfl⟩
    simp only [advance, goOn] at h
    split at h <;> cases h
  | waiting p => cases ha
  | ended outcome => cases ha

end Activity

namespace Section

variable {x : Section} {xs : List Section}

/-- A section of a call's own leaves areas that are not populated without offers, unless it leaves a call that is about
to load or to disable them. -/
theorem Runs.offersPopulated_own (h : x.start.bindsAreas = false → x.before.OffersPopulated xs) (hx : x.Runs)
    (hr : x.reply = none) (hf : x.start.Fits x.before) (hc : ∀ c, x.start = .entered c → c.isPick = true)
    (ho : x.PicksOffered) (hb : x.stop.bindsAreas = false) : x.after.OffersPopulated (xs ++ [x]) := by
  intro hl hp
  obtain ⟨hadv, hafter, hs⟩ := hx.after_eq hr
  have hcases := Activity.areas_offered hf hadv hc
  rw [← Activity.replay_deeds, ← hafter, ← hs] at hcases
  rcases hcases with hcase | hcase | ⟨hsb, hsl, hd, hv, hrack⟩
  · rw [hcase] at hb
    cases hb
  · exact hcase
  · have hph : x.before.area.phase ≠ .populated := fun hd' => hp ((congrArg (·.2.1) hd).trans hd')
    have hn : ¬x.LooksAtSite := fun ⟨c, hc, hcl⟩ => by simp [hsl c hc] at hcl
    have hun := h hsb (exists_looksAtSite hn hl) hph
    have hentries : x.after.area.select.entries = [.placeholder] := (congrArg (·.2.2) hd).trans hun.entries
    refine ⟨?_, hentries, ?_⟩
    · rcases hv with hv | hv
      · rw [hv]
        exact hun.value
      · -- only the placeholder could be picked
        obtain ⟨e, he, hev⟩ := ho _ (show _ ∈ x.start.picked? by rw [hv]; rfl)
        rw [hun.entries, List.mem_singleton] at he
        rw [← hev, he]
        rfl
    · rcases hrack with hrack | hrack | hrack
      · exact hrack
      · rw [hrack]
        exact hun.racks
      · exact absurd hun.value hrack

/-- A reply leaves areas that are not populated without offers. -/
theorem Runs.offersPopulated_answers {p : Pending} {reply : Reply} (h : x.before.OffersPopulated xs) (hx : x.Runs)
    (hr : x.Answers p reply) : x.after.OffersPopulated (xs ++ [x]) := by
  intro hl hp
  have hl := exists_looksAtSite hr.not_looksAtSite hl
  have harea : x.after.area = x.before.area := by
    rcases hx.get_of_answers hr .area with he | ⟨_, _, he⟩
    · exact he
    · exact absurd (congrArg Field.phase he) hp
  rw [harea] at hp
  have hun := h hl hp
  have hrack : x.after.rack = x.before.rack := hx.get_of_answers_disabled (l := .rack) hr hun.racks
  exact ⟨by rw [harea]; exact hun.value, by rw [harea]; exact hun.entries, by rw [hrack]; exact hun.racks⟩

/-- A section of a call's own leaves the racks to the area, unless it leaves a call that is about to load or to disable
them. -/
theorem Runs.showsRacks_own (h : x.start.bindsRacks = false → x.before.ShowsRacks xs) (hx : x.Runs)
    (hr : x.reply = none) (hf : x.start.Fits x.before) (hc : ∀ c, x.start = .entered c → c.isPick = true)
    (hb : x.stop.bindsRacks = false) : x.after.ShowsRacks (xs ++ [x]) := by
  intro hl hp
  obtain ⟨hadv, hafter, hs⟩ := hx.after_eq hr
  have hcases := Activity.racks_of_fits hf hadv hc
  rw [← Activity.replay_deeds, ← hafter, ← hs] at hcases
  rcases hcases with hcase | hcase | ⟨p, hs₁, hs₂, hlev, hv⟩ | ⟨hsb, hsl, hw, hd, hv⟩
  · rw [hcase] at hb
    cases hb
  · exact absurd hcase hp
  · have hl : x.after.ShowsLast (xs ++ [x]) p.load.level .area := .of_asks hx ⟨hs₁, hs₂⟩ hv
    rwa [hlev] at hl
  · have hph : x.before.rack.phase ≠ .disabled := fun hd' => hp ((congrArg (·.2.1) hd).trans hd')
    have hn : ¬x.LooksAtSite := fun ⟨c, hc, hcl⟩ => by simp [hsl c hc] at hcl
    exact (h hsb (exists_looksAtSite hn hl) hph).frame hd hv fun r hr => absurd hr.2 (hw r)

/-- A reply leaves the racks to the area: when areas come, the racks are disabled. -/
theorem Runs.showsRacks_answers {q : Pool} {others : Multiset Thread} {p : Pending} {reply : Reply}
    (h : q.form.ShowsRacks xs) (hu : q.form.OffersPopulated xs) (ho : q.Ordered xs) (hx : x.Runs)
    (hb : x.before = q.form) (ht : q.threads = x.entry ::ₘ others) (hr : x.Answers p reply) :
    x.after.ShowsRacks (xs ++ [x]) := by
  intro hl hp
  have hl := exists_looksAtSite hr.not_looksAtSite hl
  have hph : q.form.rack.phase ≠ .disabled := by
    rw [← hb]
    exact hx.phase_of_answers (l := .rack) hr hp
  refine (h hl hph).answers ho hx hb ht hr ?_
  rcases hx.get_of_answers hr .area with he | ⟨_, harea, _⟩
  · rw [he, hb]
  · -- areas that come were loading, and then the racks are disabled
    rw [hb] at harea
    refine absurd (hu hl fun hd => ?_).racks hph
    rw [show (q.form.get .area).phase = .populated from hd] at harea
    cases harea

end Section

/-! ## Courses -/

/-- While no call is about to load or to disable the areas, those that are not populated are not offered; and while no
call is about to load or to disable the racks, those of the selected area are on show. -/
structure Pool.FollowsArea (q : Pool) (xs : List Section) : Prop where
  offers : (∀ t ∈ q.threads, t.activity.bindsAreas = false) → q.form.OffersPopulated xs
  shows : (∀ t ∈ q.threads, t.activity.bindsRacks = false) → q.form.ShowsRacks xs

namespace Pool.FollowsArea

variable {p q : Pool} {xs ys : List Section}

theorem start (h : q.FollowsArea xs) (call : Call) : Pool.FollowsArea
    { q with started := q.started + 1, threads := ⟨q.started, call, .entered call⟩ ::ₘ q.threads } xs where
  offers hb := h.offers fun t ht => hb t (Multiset.mem_cons_of_mem ht)
  shows hb := h.shows fun t ht => hb t (Multiset.mem_cons_of_mem ht)

theorem leave {gone others : Multiset Thread} (h : q.FollowsArea xs) (ht : q.threads = gone + others)
    (hg : ∀ t ∈ gone, t.activity.canAdvance = false) : Pool.FollowsArea { q with threads := others } xs where
  offers hb := h.offers (Pool.forall_of_eq_add ht (fun t hm => Activity.bindsAreas_of_canAdvance (hg t hm)) hb)
  shows hb := h.shows (Pool.forall_of_eq_add ht (fun t hm => Activity.bindsRacks_of_canAdvance (hg t hm)) hb)

theorem act {x : Section} {others : Multiset Thread} (h : q.FollowsArea xs) (hfit : x.start.Fits x.before)
    (ho : q.Ordered xs) (hx : x.Runs) (hb : x.before = q.form) (ht : q.threads = x.entry ::ₘ others)
    (hi : ∀ t ∈ others, t.activity.rests = true) (hc : ∀ c, x.start = .entered c → c.isPick = true)
    (hp : x.PicksOffered) :
    Pool.FollowsArea { q with form := x.after, threads := x.exit ::ₘ others } (xs ++ [x]) := by
  -- what held before the section held unless the call that runs was about to load or disable
  have hareas : x.start.bindsAreas = false → q.form.OffersPopulated xs := fun hs =>
    h.offers (Pool.forall_of_eq_cons ht hs fun t hm => Activity.bindsAreas_of_rests (hi t hm))
  have hracks : x.start.bindsRacks = false → q.form.ShowsRacks xs := fun hs =>
    h.shows (Pool.forall_of_eq_cons ht hs fun t hm => Activity.bindsRacks_of_rests (hi t hm))
  rcases hx.own_or_answers with hr | ⟨p, reply, hr⟩
  · rw [← hb] at hareas hracks
    exact {
      offers := fun hbinds => hx.offersPopulated_own hareas hr hfit hc hp (hbinds x.exit (Multiset.mem_cons_self _ _))
      shows := fun hbinds => hx.showsRacks_own hracks hr hfit hc (hbinds x.exit (Multiset.mem_cons_self _ _)) }
  · rw [hr.1] at hareas hracks
    exact {
      offers := fun _ => hx.offersPopulated_answers (by rw [hb]; exact hareas rfl) hr
      shows := fun _ => hx.showsRacks_answers (hracks rfl) (hareas rfl) ho hb ht hr }

/-- Every course of calls that restore or report what was picked among the areas on show keeps the racks to the
area. -/
theorem course (h : p.FollowsArea xs) (hs : p.FollowsSite xs) (ho : p.Ordered xs)
    (hc : Course (·.rests = true) p ys q) (hp : ∀ x ∈ ys, ∀ c, x.start = .entered c → c.isPick = true)
    (hoff : ∀ x ∈ ys, x.PicksOffered) : q.FollowsArea (xs ++ ys) := by
  induction hc with
  | nil => rw [List.append_nil]; exact h
  | start call _ _ ih => exact (ih hp hoff).start call
  | leave _ ht hg ih => exact (ih hp hoff).leave ht hg
  | @act zs q x others hc hx hb ht hi ih =>
    rw [List.forall_mem_append, List.forall_mem_singleton] at hp hoff
    have hfit := (hs.course ho hc hp.1).fits x.entry (Pool.mem_of_eq_cons ht)
    rw [← List.append_assoc]
    exact (ih hp.1 hoff.1).act (by rw [hb]; exact hfit) (ho.course hc) hx hb ht hi hp.2 hoff.2

end Pool.FollowsArea

namespace Session

variable {σ : Type} (src : Source σ)

/-- In a session nothing is about to load or to disable the racks between two events. -/
theorem bindsRacks_of_mem_pool (s : Session σ) : ∀ t ∈ s.pool.threads, t.activity.bindsRacks = false := fun t ht =>
  Activity.bindsRacks_of_rests (rests_of_mem (fun t ht => absurd ht (Multiset.notMem_zero t)) t ht)

/-- **Racks follow the selected area.** A host restores the page and reports what was picked, and it picks no area but
one of those that are on show at that moment. Once a call has looked at the site, racks are shown, or waited for, only
if the last request for racks was for the area that is selected, and the racks on show are those of the reply to that
very request: this holds after all events, and before every section except one that is itself about to load or to
disable the racks. -/
theorem racks_follow_selection (traffic : Traffic σ) (site area rack : Select) (endpoints : Endpoints)
    (events : List Event) (h : ∀ e ∈ events, ∀ c ∈ e.calls, c.isPick = true)
    (hoff : ∀ x ∈ (fresh traffic site area rack endpoints).history src events, x.PicksOffered) :
    let s := (fresh traffic site area rack endpoints).after src events
    let xs := (fresh traffic site area rack endpoints).history src events
    (∀ us x vs, xs = us ++ x :: vs → x.start.bindsRacks = false → x.before.ShowsRacks us) ∧
      s.form.ShowsRacks xs ∧
      ((∃ x ∈ xs, x.LooksAtSite) → s.form.rack.phase ≠ .disabled →
        (s.requests.filter (·.param = "area")).getLast?.map (·.value) = some s.form.area.select.value) := by
  intro s xs
  have hc : Course _ _ xs s.pool := course_history src (fresh traffic site area rack endpoints) events
  have hpick : ∀ x ∈ xs, ∀ c, x.start = .entered c → c.isPick = true := fun x hx c hxc => by
    obtain ⟨e, he, hm⟩ := entered_of_history src _ events x hx c hxc
    exact h e he c hm
  have ho := fresh_ordered traffic site area rack endpoints
  have hsite : (fresh traffic site area rack endpoints).pool.FollowsSite [] := .of_threads_eq_zero rfl
  have harea : (fresh traffic site area rack endpoints).pool.FollowsArea [] :=
    ⟨fun _ ⟨x, hx, _⟩ => absurd hx List.not_mem_nil, fun _ ⟨x, hx, _⟩ => absurd hx List.not_mem_nil⟩
  have hend : s.form.ShowsRacks xs := (harea.course hsite ho hc hpick hoff).shows s.bindsRacks_of_mem_pool
  refine ⟨fun us x vs hxs hbinds => ?_, hend, fun hl hph => ?_⟩
  · rw [hxs] at hc hpick
    have hoff : ∀ y ∈ us ++ x :: vs, y.PicksOffered := hxs ▸ hoff
    rw [List.forall_mem_append] at hpick hoff
    obtain ⟨q, others, hq, hb, _, ht, hi, _⟩ := hc.cut
    rw [← hb]
    exact (harea.course hsite ho hq hpick.1 hoff.1).shows
      (Pool.forall_of_eq_cons ht hbinds fun t hm => Activity.bindsRacks_of_rests (hi t hm))
  · have hlast : ((xs.flatMap (·.stop.requests)).filter (·.param = "area")).getLast?.map (·.value) =
        some s.form.area.select.value := (hend hl hph).last_request_of rfl (ho.course hc).runs
    have hreq : s.requests = traffic.requests ++ xs.flatMap (·.stop.requests) := requests_after src _ events
    obtain ⟨r, hr, hrv⟩ := Option.map_eq_some_iff.mp hlast
    rw [hreq, List.filter_append, List.getLast?_append, hr, ← hrv]
    rfl

/-- A page with a site and an area to restore: when the areas come, another one of them is picked before the racks of
the first are asked for, and then the racks of that one come. -/
def repicked : List Event :=
  [.start .restore none, .release 0 (.ok [⟨.number 12, "A"⟩, ⟨.number 13, "B"⟩]) (some (.areaChanged "13")),
    .release 1 (.ok [⟨.number 40, "R"⟩]) none]

theorem repicked_racks_follow :
    let s₀ : Session Unit := fresh { source := () } ((Select.new "id_site").withValue "5")
      ((Select.new "id_area").withData Select.currentValueKey "12") (.new "id_rack")
      ⟨some "/areas/", some "/racks/"⟩
    let s := s₀.after .holding repicked
    (∀ e ∈ repicked, ∀ c ∈ e.calls, c.isPick = true) ∧ (∀ x ∈ s₀.history .holding repicked, x.PicksOffered) ∧
      (∃ x ∈ s₀.history .holding repicked, x.LooksAtSite) ∧ s.form.rack.phase = .populated ∧
      (s.requests.filter (·.param = "area")).getLast?.map (·.value) = some s.form.area.select.value := by
  intro s₀ s
  have hcalls : ∀ e ∈ repicked, ∀ c ∈ e.calls, c.isPick = true := by decide +kernel
  have hoff : ∀ x ∈ s₀.history .holding repicked, x.PicksOffered := by decide +kernel
  have hhead : (s₀.history .holding repicked).head?.map (·.start) = some (.entered .restore) := by decide +kernel
  have hphase : s.form.rack.phase = .populated := by decide +kernel
  obtain ⟨x, hx, hstart⟩ := Option.map_eq_some_iff.mp hhead
  have hlooks : ∃ x ∈ s₀.history .holding repicked, x.LooksAtSite :=
    ⟨x, List.mem_of_mem_head? hx, .restore, hstart, rfl⟩
  refine ⟨hcalls, hoff, hlooks, hphase, ?_⟩
  refine (racks_follow_selection .holding _ _ _ _ _ repicked hcalls hoff).2.2 hlooks fun hd => ?_
  rw [show s.form.rack.phase = .populated from hphase] at hd
  cases hd

end Session

end LinkedSelect
