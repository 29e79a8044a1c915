import LinkedSelect.Proofs.Crowd
import LinkedSelect.Proofs.Origin

/-!
# Areas when calls interleave

Between the section in which a call stores or reads the site and the one in which its load of the areas begins, the form
is not locked. When calls run on threads of their own, another one may come in between, and a load that is not a
continued one does not look again.

* `Section.OnAreas` lists what a section can do to the areas when other calls may have changed the site.
* `Pool.Tracks` is what every interleaving keeps: once a call has looked at the site, and while none is about to load or
  to disable the areas, they were loaded or disabled since, the site has stayed what it was then, and if that section
  still found the site that its call had in mind, the areas are those of the site.
* `Crowd.areas_follow_site`: so they are when all calls have ended.
-/

namespace LinkedSelect

/-! ## What a call knows that runs among others -/

/-- A call that restores or reports what was picked, as it may stand among others: it knows what it learned of the form,
which may have changed since. -/
def Activity.Founded (a : Activity) : Prop :=
  (∃ f, a.Fits f) ∧ ∀ c, a = .entered c → c.isPick = true

/-- The site that a call stores in its next section, or has in mind when it loads or disables the areas there. -/
def Activity.site? : Activity → Option String
  | .entered (.siteChanged value) => some value
  | .siteless _ => some ""
  | .ready load => some load.filter
  | _ => none

/-- After this section the site is the one that its call stored or had read. -/
def Section.FindsSite (x : Section) : Prop :=
  x.start.site? = some x.after.site.select.value

instance (x : Section) : Decidable x.FindsSite :=
  inferInstanceAs (Decidable (_ = _))

namespace Activity.Founded

variable {a : Activity}

theorem advance (h : a.Founded) (ha : a.canAdvance = true) (f : Form) : (a.advance f).2.Founded := by
  obtain ⟨⟨g, hg⟩, hc⟩ := h
  refine ⟨?_, fun c he => absurd he (advance_ne_entered f ha c)⟩
  cases a with
  | entered call => exact ⟨_, Fits.advance trivial ha hc⟩
  | siteless retained => exact ⟨f, trivial⟩
  | ready load => exact ⟨f, fits_of_ready hg.level_ne_site f f⟩
  | returned load outcome => exact ⟨_, (hg.of_rests rfl f).advance ha hc⟩
  | waiting p => cases ha
  | ended outcome => cases ha

theorem resume {p : Pending} (h : (waiting p).Founded) (f : Form) (reply : Reply) :
    (Activity.resume f p reply).2.Founded := by
  obtain ⟨⟨g, hg⟩, _⟩ := h
  exact ⟨⟨_, (hg.of_rests rfl f).resume reply⟩, fun c he => by cases he⟩

end Activity.Founded

/-- What a section of a call's own can do to the areas. -/
inductive Section.OnAreas (x : Section) : Prop
  /-- the call is now about to load or to disable them -/
  | looks (hb : x.stop.bindsAreas = true) (hn : ¬x.Renews .area)
  /-- they are disabled, for want of a site or of an endpoint -/
  | closes (hr : x.Renews .area) (hp : x.after.area.phase = .disabled)
      (he : x.after.area.select.entries = [.placeholder])
      (hs : ∀ v, x.start.site? = some v → v ≠ "" → x.after.area.endpoint = none)
  /-- a load of them begins to wait -/
  | asks {p : Pending} (hr : x.Renews .area) (ha : x.Asks p) (hl : p.load.level = .area)
      (hs : x.start.site? = some p.request.value) (hv : p.request.value ≠ "")
  /-- they stay as they are, under the same site -/
  | passes (hn : ¬x.Renews .area) (hl : ¬x.LooksAtSite) (hb : x.start.bindsAreas = false)
      (hd : x.after.area.display = x.before.area.display)
      (hv : x.after.site.select.value = x.before.site.select.value)

namespace Section

variable {x : Section}

theorem onAreas_ready {number : Nat} {call : Call} {f g : Form} {load : Load} (h : (Activity.ready load).Fits g) :
    OnAreas ⟨number, call, f, .ready load, none, ((Activity.ready load).advance f).1,
      ((Activity.ready load).advance f).2⟩ := by
  obtain ⟨hne, ⟨hl, hfirst, _⟩ | ⟨hl, _⟩⟩ := h
  · have ho : f.isOutdated load .site = false := by simp [Form.isOutdated, hfirst]
    have hrenews : ∃ d ∈ f.loadDeeds load, d.level = .area ∧ d.change.renews = true := by
      simp only [Form.loadDeeds, hl, Level.parent?, ho]
      refine ⟨_, List.mem_append_right _ (List.mem_singleton_self _), rfl, ?_⟩
      dsimp only
      split <;> rfl
    rcases Form.beginLoad_eq (by rw [hl]; rfl) ho with ⟨he, hb⟩ | ⟨endpoint, he, hb⟩
    · have hadv : (Activity.ready load).advance f =
          ((f.disable load.level.descendants).modify load.level .decline, .returned load .disabled) := by
        simp only [Activity.advance, hb]
      have hend : f.area.endpoint = none := by
        rw [Form.endpoint?, if_neg hne, hl] at he
        exact he
      rw [hadv, hl]
      exact .closes hrenews rfl rfl fun _ _ _ => hend
    · have hadv : (Activity.ready load).advance f =
          ((f.disable load.level.descendants).modify load.level .beginLoad, .waiting
            { load
              request := { endpoint, param := Level.site.name, value := load.filter }
              wanted := if load.retain then (f.get load.level).retained? else none
              generation := (f.get load.level).generation + 1 }) := by
        simp only [Activity.advance, hb]
      rw [hadv]
      exact .asks hrenews ⟨rfl, rfl⟩ hl rfl hne
  · have hkeep : ((Activity.ready load).advance f).1.site = f.site ∧
        ((Activity.ready load).advance f).1.area = f.area := by
      have hb := Form.begins f load
      simp only [Activity.advance]
      generalize f.beginLoad load = r at hb ⊢
      cases hb with
      | parentless => exact ⟨rfl, rfl⟩
      | outdated => exact ⟨rfl, rfl⟩
      | declined => rw [hl]; exact ⟨rfl, rfl⟩
      | waits => rw [hl]; exact ⟨rfl, rfl⟩
    refine .passes ?_ ?_ ?_ (congrArg Field.display hkeep.2) (congrArg (·.select.value) hkeep.1)
    · simp only [Renews, Activity.deeds, Form.loadDeeds, hl, Level.parent?]
      split <;> simp [Level.descendants]
    · rintro ⟨c, hc, _⟩
      cases hc
    · simp [Activity.bindsAreas, hl]

theorem Runs.onAreas (h : x.Runs) (hr : x.reply = none) (hf : x.start.Founded) : x.OnAreas := by
  obtain ⟨⟨g, hg⟩, hc⟩ := hf
  cases h with
  | reply => cases hr
  | @own number call f a ha =>
    cases a with
    | entered call =>
      cases call with
      | restore =>
        refine .looks ?_ ?_
        · simp only [Activity.advance, Activity.enter]
          split <;> rfl
        · rintro ⟨d, hd, _⟩
          cases hd
      | siteChanged value =>
        by_cases hv : value = ""
        · subst hv
          exact .closes ⟨⟨.area, .disable⟩, by simp [Activity.deeds, disableDeeds], rfl, rfl⟩ rfl rfl
            fun v h hv => absurd (Option.some.inj h).symm hv
        · refine .looks ?_ ?_
          · simp only [Activity.advance, Activity.enter, if_neg hv]
            rfl
          · simp [Renews, Activity.deeds, hv, Change.renews]
      | areaChanged value =>
        refine .passes ?_ ?_ rfl ?_ ?_
        · simp only [Renews, Activity.deeds]
          split <;> simp [disableDeeds, Change.renews]
        · rintro ⟨c, hc, hl⟩
          cases hc
          cases hl
        · simp only [Activity.advance, Activity.enter]
          split <;> rfl
        · simp only [Activity.advance, Activity.enter]
          split <;> rfl
      | load level filter retain => exact absurd (hc _ rfl) (by simp [Call.isPick])
    | siteless retained =>
      refine .closes ⟨⟨.area, .disable⟩, by simp [Activity.deeds, disableDeeds], rfl, rfl⟩ ?_ ?_
        fun v h hv => absurd (Option.some.inj h).symm hv
      · cases retained <;> rfl
      · cases retained <;> rfl
    | ready load => exact onAreas_ready hg
    | returned load outcome =>
      refine .passes ?_ ?_ rfl rfl rfl
      · rintro ⟨d, hd, _⟩
        cases hd
      · rintro ⟨c, hc, _⟩
        cases hc
    | waiting p => cases ha
    | ended outcome => cases ha

/-- The last section in which a load of the level began or the level was disabled. -/
def lastRenewal? (l : Level) (xs : List Section) : Option Section :=
  xs.reverse.find? fun x => x.Renews l

theorem lastRenewal?_of_renews {l : Level} (h : x.Renews l) (xs : List Section) :
    lastRenewal? l (xs ++ [x]) = some x := by
  simp [lastRenewal?, h]

theorem lastRenewal?_of_not_renews {l : Level} (h : ¬x.Renews l) (xs : List Section) :
    lastRenewal? l (xs ++ [x]) = lastRenewal? l xs := by
  simp [lastRenewal?, h]

end Section

/-! ## The areas and the site -/

/-- Without a site the areas are disabled and show the placeholder alone. With a site and an endpoint, they are on show
or on their way, the last request for areas was for the site, and the areas on show are those of the reply to it. -/
def Form.ShowsSite (f : Form) (xs : List Section) : Prop :=
  (f.site.select.value = "" → f.area.phase = .disabled ∧ f.area.select.entries = [.placeholder]) ∧
    (f.site.select.value ≠ "" → f.area.endpoint ≠ none → f.area.phase ≠ .disabled ∧ f.ShowsLast xs .area .site)

namespace Form.ShowsSite

variable {x : Section} {xs : List Section}

/-- The areas stay those of the site while both stay what they are. -/
theorem frame (h : x.before.ShowsSite xs) (hr : x.Runs) (hb : x.start.bindsAreas = false)
    (hd : x.after.area.display = x.before.area.display)
    (hv : x.after.site.select.value = x.before.site.select.value) : x.after.ShowsSite (xs ++ [x]) := by
  have hphase : x.after.area.phase = x.before.area.phase := congrArg (·.2.1) hd
  have hentries : x.after.area.select.entries = x.before.area.select.entries := congrArg (·.2.2) hd
  have hend : x.after.area.endpoint = x.before.area.endpoint := hr.endpoint_eq .area
  rw [ShowsSite, hphase, hentries, hend, hv]
  refine ⟨h.1, fun hs he => ⟨(h.2 hs he).1, (h.2 hs he).2.frame hd hv fun r ha hl => ?_⟩⟩
  simp [ha.1, Activity.bindsAreas, hl] at hb

/-- A reply leaves the areas those of the site. -/
theorem answers {q : Pool} {others : Multiset Thread} {p : Pending} {reply : Reply} (h : q.form.ShowsSite xs)
    (ho : q.Ordered xs) (hr : x.Runs) (hb : x.before = q.form) (ht : q.threads = x.entry ::ₘ others)
    (ha : x.Answers p reply) (hl : p.load.level ≠ .site) : x.after.ShowsSite (xs ++ [x]) := by
  have hsite : x.after.site = q.form.site := (hr.get_of_answers_ne (l := .site) ha hl).trans (congrArg Form.site hb)
  have hend : x.after.area.endpoint = q.form.area.endpoint := hb ▸ hr.endpoint_eq .area
  rw [ShowsSite, hsite, hend]
  refine ⟨fun hs => ?_, fun hs he => ⟨?_, (h.2 hs he).2.answers ho hr hb ht ha (congrArg (·.select.value) hsite)⟩⟩
  · have hdisabled : (x.before.get .area).phase = .disabled := hb ▸ (h.1 hs).1
    have harea : x.after.area = q.form.area :=
      (hr.get_of_answers_disabled ha hdisabled).trans (congrArg Form.area hb)
    rw [harea]
    exact h.1 hs
  · rcases hr.get_of_answers ha .area with harea | ⟨_, _, harea⟩
    · rw [show x.after.area = _ from harea, hb]
      exact (h.2 hs he).1
    · rw [show x.after.area = _ from harea]
      exact fun hp => by cases hp

end Form.ShowsSite

/-- What every interleaving keeps. Each call knows only what it may have learned. The areas wait for the reply that some
call waits for. Once a call has looked at the site, and while none is about to load or to disable the areas, the last
section that did so left the site what it still is; and if it was the site that its call had in mind, the areas are
those of the site. -/
structure Pool.Tracks (q : Pool) (xs : List Section) : Prop where
  founded : ∀ t ∈ q.threads, t.activity.Founded
  entered : ∀ t ∈ q.threads, t.activity = .entered t.call ∨ ∃ x ∈ xs, x.start = .entered t.call
  awaited : ∀ g, q.form.area.phase = .loading g →
    ∃ t ∈ q.threads, ∃ p, t.activity = .waiting p ∧ p.load.level = .area ∧ p.generation = g
  shows : (∃ x ∈ xs, x.LooksAtSite) → (∀ t ∈ q.threads, t.activity.bindsAreas = false) →
    ∃ x, Section.lastRenewal? .area xs = some x ∧ q.form.site.select.value = x.after.site.select.value ∧
      (x.FindsSite → q.form.ShowsSite xs)

namespace Pool.Tracks

variable {q : Pool} {xs : List Section}

theorem of_threads_eq_zero (ht : q.threads = 0) (hp : ∀ g, q.form.area.phase ≠ .loading g) : q.Tracks [] where
  founded t hm := by rw [ht] at hm; exact absurd hm (Multiset.notMem_zero t)
  entered t hm := by rw [ht] at hm; exact absurd hm (Multiset.notMem_zero t)
  awaited g hg := absurd hg (hp g)
  shows := fun ⟨_, hx, _⟩ => absurd hx List.not_mem_nil

theorem start (h : q.Tracks xs) {call : Call} (hc : call.isPick = true) : Pool.Tracks
    { q with started := q.started + 1, threads := ⟨q.started, call, .entered call⟩ ::ₘ q.threads } xs where
  founded t ht := by
    rcases Multiset.mem_cons.mp ht with rfl | ht
    · exact ⟨⟨q.form, trivial⟩, fun c hc' => by cases hc'; exact hc⟩
    · exact h.founded t ht
  entered t ht := by
    rcases Multiset.mem_cons.mp ht with rfl | ht
    · exact Or.inl rfl
    · exact h.entered t ht
  awaited g hg := by
    obtain ⟨t, ht, hp⟩ := h.awaited g hg
    exact ⟨t, Multiset.mem_cons_of_mem ht, hp⟩
  shows hl hb := h.shows hl fun t ht => hb t (Multiset.mem_cons_of_mem ht)

/-- After a section the areas still wait only for what some call waits for. -/
theorem awaited_act {x : Section} {others : Multiset Thread} (h : q.Tracks xs) (hx : x.Runs) (hb : x.before = q.form)
    (ht : q.threads = x.entry ::ₘ others) (g : Nat) (hg : x.after.area.phase = .loading g) :
    ∃ t ∈ x.exit ::ₘ others, ∃ p, t.activity = .waiting p ∧ p.load.level = .area ∧ p.generation = g := by
  rcases hx.loading_inv (l := .area) hg with ⟨p, ha, hp⟩ | ⟨hbefore, hn⟩
  · exact ⟨x.exit, Multiset.mem_cons_self _ _, p, ha.2, hp⟩
  · obtain ⟨t, hm, p, hw, hp⟩ := h.awaited g (hb ▸ hbefore)
    rw [ht] at hm
    rcases Multiset.mem_cons.mp hm with rfl | hm
    · -- the areas would have taken the reply
      obtain ⟨reply, ha⟩ := hx.answers_of_waiting hw
      exact absurd hp (hn p reply ha)
    · exact ⟨t, Multiset.mem_cons_of_mem hm, p, hw, hp⟩

theorem act {x : Section} {others : Multiset Thread} (h : q.Tracks xs) (ho : q.Ordered xs) (hx : x.Runs)
    (hb : x.before = q.form) (ht : q.threads = x.entry ::ₘ others) :
    Pool.Tracks { q with form := x.after, threads := x.exit ::ₘ others } (xs ++ [x]) where
  founded t hm := by
    have hf : x.start.Founded := h.founded x.entry (Pool.mem_of_eq_cons ht)
    rcases Multiset.mem_cons.mp hm with rfl | hm
    · cases hx with
      | own ha => exact hf.advance ha _
      | reply => exact hf.resume _ _
    · exact h.founded t (Pool.mem_of_mem_others ht hm)
  entered t hm := by
    have hmem : ∀ u ∈ q.threads, u.activity = .entered u.call ∨ ∃ y ∈ xs ++ [x], y.start = .entered u.call :=
      fun u hu => (h.entered u hu).imp_right fun ⟨y, hy, hs⟩ => ⟨y, List.mem_append_left _ hy, hs⟩
    rcases Multiset.mem_cons.mp hm with rfl | hm
    · right
      rcases hmem x.entry (Pool.mem_of_eq_cons ht) with hs | hs
      · exact ⟨x, List.mem_append_right _ (List.mem_singleton_self x), hs⟩
      · exact hs
    · exact hmem t (Pool.mem_of_mem_others ht hm)
  awaited := h.awaited_act hx hb ht
  shows hl hbinds := by
    have hexit : x.stop.bindsAreas = false := hbinds x.exit (Multiset.mem_cons_self _ _)
    -- the last section that renewed the areas still is the last one, if this one does not renew them
    have hold : ¬x.LooksAtSite → x.start.bindsAreas = false → ¬x.Renews .area →
        x.after.site.select.value = x.before.site.select.value →
        (x.before.ShowsSite xs → x.after.ShowsSite (xs ++ [x])) → ∃ y, Section.lastRenewal? .area (xs ++ [x]) = some y ∧
          x.after.site.select.value = y.after.site.select.value ∧ (y.FindsSite → x.after.ShowsSite (xs ++ [x])) := by
      intro hn hs hr hv hshow
      obtain ⟨y, hy, hyv, hyf⟩ := h.shows (Section.exists_looksAtSite hn hl)
        (Pool.forall_of_eq_cons ht hs fun t hm => hbinds t (Multiset.mem_cons_of_mem hm))
      rw [← hb] at hyv hyf
      exact ⟨y, (Section.lastRenewal?_of_not_renews hr xs).trans hy, hv.trans hyv, fun hf => hshow (hyf hf)⟩
    rcases hx.own_or_answers with hr | ⟨p, reply, ha⟩
    · cases hx.onAreas hr (h.founded x.entry (Pool.mem_of_eq_cons ht)) with
      | looks hs =>
        rw [hs] at hexit
        cases hexit
      | closes hren hp he hs =>
        refine ⟨x, Section.lastRenewal?_of_renews hren xs, rfl, fun hf => ⟨fun _ => ⟨hp, he⟩, fun hne hend => ?_⟩⟩
        exact absurd (hs _ hf hne) hend
      | @asks p hren ha hlev hs hv =>
        refine ⟨x, Section.lastRenewal?_of_renews hren xs, rfl, fun hf => ?_⟩
        have hsite : p.request.value = x.after.site.select.value := Option.some.inj (hs.symm.trans hf)
        refine ⟨fun h0 => absurd (hsite.trans h0) hv, fun _ _ => ⟨fun hp => ?_, ?_⟩⟩
        · have hload := (hx.asks_generation ha).2.2
          rw [hlev, show (x.after.get .area).phase = .disabled from hp] at hload
          cases hload
        · have hlast : x.after.ShowsLast (xs ++ [x]) p.load.level .site := .of_asks hx ha hsite
          rwa [hlev] at hlast
      | passes hn hlook hs hd hv => exact hold hlook hs hn hv fun hshow => hshow.frame hx hs hd hv
    · have hwait : (Activity.waiting p).Founded := ha.1 ▸ h.founded x.entry (Pool.mem_of_eq_cons ht)
      obtain ⟨⟨f, hlev⟩, _⟩ := hwait
      have hsite : x.after.site = x.before.site := hx.get_of_answers_ne (l := .site) ha hlev
      refine hold ha.not_looksAtSite (by rw [ha.1]; rfl) (ha.not_renews .area) (congrArg (·.select.value) hsite)
        fun hshow => ?_
      rw [hb] at hshow
      exact hshow.answers ho hx hb ht ha hlev

end Pool.Tracks

/-! ## When all calls have ended -/

def Activity.hasEnded : Activity → Bool
  | .ended _ => true
  | _ => false

theorem Activity.bindsAreas_of_hasEnded {a : Activity} (h : a.hasEnded = true) : a.bindsAreas = false := by
  cases a <;> first | rfl | cases h

/-- In this section a reply came to a request for the areas of a site, and these are the entries for it. -/
def Section.BringsAreas (x : Section) (site : String) (entries : List Entry) : Prop :=
  ∃ p ∈ x.start.pending?, ∃ reply ∈ x.reply,
    p.load.level = .area ∧ p.request.value = site ∧ entries = Select.entriesOf (Field.choicesOf reply)

instance (x : Section) (site : String) (entries : List Entry) : Decidable (x.BringsAreas site entries) :=
  inferInstanceAs (Decidable (∃ p ∈ _, ∃ reply ∈ _, _ ∧ _ ∧ _))

/-- The areas are on show as they came in a reply to a request for this site. -/
def Form.ShowsAreasOf (f : Form) (xs : List Section) (site : String) : Prop :=
  f.area.phase = .populated ∧ ∃ x ∈ xs, x.BringsAreas site f.area.select.entries

instance (f : Form) (xs : List Section) (site : String) : Decidable (f.ShowsAreasOf xs site) :=
  inferInstanceAs (Decidable (_ ∧ ∃ x ∈ _, _))

theorem Form.ShowsLast.showsAreasOf {f : Form} {xs : List Section} (h : f.ShowsLast xs .area .site)
    (hp : f.area.phase = .populated) : f.ShowsAreasOf xs f.site.select.value := by
  obtain ⟨us, x, vs, p, rfl, _, hl, _, hv, _, hpop⟩ := h
  obtain ⟨y, hy, reply, _, ha, he⟩ := hpop hp
  refine ⟨hp, y, List.mem_append_right _ (List.mem_cons_of_mem _ hy), p, ?_, reply, ha.2, hl, hv, he⟩
  rw [ha.1]
  rfl

namespace Crowd

/-- A new form over three selects, over which no call was started. -/
def fresh (site area rack : Select) (endpoints : Endpoints) : Crowd :=
  { form := .new site area rack endpoints }

/-- **When calls interleave, the areas follow the site** up to the moment between a call's look at the site and its
load. Calls that restore the page or report what was picked run on threads of their own, section by section, and replies
come at any time. When all have ended and one of them has looked at the site, and if the section that was the last to
load the areas or to disable them found the site that its call had stored or read, then with a site and an endpoint the
areas are those of a reply to a request for that site, and without a site they are disabled and show the placeholder. -/
theorem areas_follow_site (site area rack : Select) (endpoints : Endpoints) (turns : List Turn)
    (hpick : ∀ call, .start call ∈ turns → call.isPick = true) :
    let c := fresh site area rack endpoints
    let xs := c.history turns
    let d := c.after turns
    (∀ t ∈ d.threads, t.activity.hasEnded = true) → (∃ t ∈ d.threads, t.call.looksAtSite = true) →
      (∀ x ∈ Section.lastRenewal? .area xs, x.FindsSite) →
      (d.form.site.select.value ≠ "" → endpoints.areas.filter (· ≠ "") ≠ none →
        d.form.ShowsAreasOf xs d.form.site.select.value) ∧
      (d.form.site.select.value = "" → d.form.area.phase = .disabled ∧ d.form.area.select.entries = [.placeholder]) := by
  intro c xs d hended hlooks hfinds
  have ho₀ : c.pool.Ordered [] :=
    .of_threads_eq_zero rfl (Session.fresh_ordered { source := () } site area rack endpoints).timely
  have hinv : d.pool.Ordered xs ∧ d.pool.Tracks xs ∧ d.pool.form.area.endpoint = endpoints.areas.filter (· ≠ "") := by
    refine invariant (I := fun q xs =>
        q.Ordered xs ∧ q.Tracks xs ∧ q.form.area.endpoint = endpoints.areas.filter (· ≠ ""))
      (fun q xs call hm h => ⟨h.1.start call, h.2.1.start (hpick call hm), h.2.2⟩)
      (fun q xs x others h hx hb ht => ⟨h.1.act hx hb ht, h.2.1.act h.1 hx hb ht, ?_⟩)
      ⟨ho₀, .of_threads_eq_zero rfl (Field.phase_new _ _), Form.endpoint_new site area rack endpoints .area⟩
    rw [← h.2.2, ← hb]
    exact hx.endpoint_eq .area
  obtain ⟨_, htracks, hend⟩ := hinv
  have hdone : ∀ t ∈ d.pool.threads, t.activity.hasEnded = true := fun t ht => hended t (Multiset.mem_coe.mp ht)
  have hlooked : ∃ x ∈ xs, x.LooksAtSite := by
    obtain ⟨t, ht, hl⟩ := hlooks
    rcases htracks.entered t (Multiset.mem_coe.mpr ht) with he | ⟨x, hx, he⟩
    · have := hended t ht
      rw [he] at this
      cases this
    · exact ⟨x, hx, t.call, he, hl⟩
  obtain ⟨x, hx, _, hshow⟩ := htracks.shows hlooked fun t ht => Activity.bindsAreas_of_hasEnded (hdone t ht)
  obtain ⟨hclosed, hopen⟩ := hshow (hfinds x hx)
  refine ⟨fun hs he => ?_, hclosed⟩
  obtain ⟨hp, hlast⟩ := hopen hs (hend ▸ he)
  refine hlast.showsAreasOf ?_
  cases hphase : d.form.area.phase with
  | populated => exact hphase
  | disabled => exact absurd hphase hp
  | loading g =>
    obtain ⟨t, ht, p, hw, _⟩ := htracks.awaited g hphase
    have := hdone t ht
    rw [hw] at this
    cases this

/-- Two sites are picked at once: both calls store theirs, the second one last, and then one of them begins its load and
then the other one. -/
def contended (first second : Nat) : List Turn :=
  [.start (.siteChanged "5"), .start (.siteChanged "6"), .act 0 none, .act 1 none, .act first none, .act second none,
    .act 0 (some (.ok [⟨.number 12, "A"⟩])), .act 1 (some (.ok [⟨.number 13, "B"⟩])), .act 0 none, .act 1 none]

/-- The load for the site that was stored last begins last. -/
theorem contended_in_order :
    let c := fresh (.new "id_site") (.new "id_area") (.new "id_rack") ⟨some "/areas/", some "/racks/"⟩
    let xs := c.history (contended 0 1)
    let d := c.after (contended 0 1)
    (∀ t ∈ d.threads, t.activity.hasEnded = true) ∧ (∃ t ∈ d.threads, t.call.looksAtSite = true) ∧
      (∀ x ∈ Section.lastRenewal? .area xs, x.FindsSite) ∧ d.form.site.select.value = "6" ∧
      d.form.ShowsAreasOf xs d.form.site.select.value := by
  -- without the abbreviations the conclusion is, word for word, what the theorem says of this run
  dsimp only
  have hpick : ∀ call, .start call ∈ contended 0 1 → call.isPick = true := by
    intro call h
    simp only [contended, List.mem_cons, Turn.start.injEq, reduceCtorEq, List.not_mem_nil, or_false] at h
    rcases h with rfl | rfl <;> rfl
  have hfollow := areas_follow_site (.new "id_site") (.new "id_area") (.new "id_rack") ⟨some "/areas/", some "/racks/"⟩
    (contended 0 1) hpick (by decide +kernel) (by decide +kernel) (by decide +kernel)
  exact ⟨by decide +kernel, by decide +kernel, by decide +kernel, by decide +kernel,
    hfollow.1 (by decide +kernel) (by decide)⟩

/-- An area that is cleared on a page without a site leaves the areas enabled. And if the load for the site that was
stored first begins last, the areas of that one are on show under the other one. -/
theorem areas_of_another_site :
    let c := fresh (.new "id_site") (.new "id_area") (.new "id_rack") ⟨some "/areas/", some "/racks/"⟩
    let cleared := c.after [.start (.areaChanged ""), .act 0 none]
    let xs := c.history (contended 1 0)
    let d := c.after (contended 1 0)
    ((∀ t ∈ cleared.threads, t.activity.hasEnded = true) ∧ cleared.form.site.select.value = "" ∧
        cleared.form.area.phase ≠ .disabled) ∧
      (∀ t ∈ d.threads, t.activity.hasEnded = true) ∧ (∃ t ∈ d.threads, t.call.looksAtSite = true) ∧
      d.form.site.select.value = "6" ∧ ¬d.form.ShowsAreasOf xs "6" ∧ d.form.ShowsAreasOf xs "5" := by
  decide +kernel

end Crowd

end LinkedSelect
