import LinkedSelect.Proofs.Origin
import LinkedSelect.Proofs.Prompt

/-!
# The gap behind a restored area

Between the restored areas of a call and the load of their racks the form is not locked, and another call may be started
there. That is harmless (`Session.gap_harmless`): in the end the form is what it would be had that call been started
after the first one.

* What a pick comes to depends on the racks that it found only in what a load keeps of a field (`Field.Kin`,
  `Activity.shown_play`), so it does not matter whether they were loaded before the pick.
* After a pick, racks are in place for the area that is selected (`Activity.brought_play`). If it is still the restored
  one, loading its racks once more brings nothing new; else the load that continues the first call is outdated.
-/

namespace LinkedSelect

/-! ## What a load keeps of a field -/

namespace Field

/-- The select, the phase and the last outcome. -/
def shown (x : Field) : Select × Phase × Option Outcome :=
  (x.select, x.phase, x.outcome)

/-- The fields agree in what a load keeps. -/
structure Kin (x y : Field) : Prop where
  id : x.select.id = y.select.id
  dataset : x.select.dataset = y.select.dataset
  endpoint : x.endpoint = y.endpoint

variable {x y : Field} {reply : Reply} {filter : String} {retain : Bool}

theorem kin_beginLoad (x : Field) : x.beginLoad.Kin x := ⟨rfl, rfl, rfl⟩

theorem kin_reload (reply : Reply) (filter : String) (retain : Bool) (x : Field) :
    (x.reload reply filter retain).Kin x := by
  unfold reload
  split <;> exact ⟨rfl, rfl, rfl⟩

theorem Kin.clearRetained (h : x.Kin y) : x.clearRetained.Kin y.clearRetained where
  id := h.id
  dataset := congrArg (·.set Select.currentValueKey "") h.dataset
  endpoint := h.endpoint

theorem Kin.retained?_eq (h : x.Kin y) : x.retained? = y.retained? := by
  have hv : x.select.currentValue = y.select.currentValue := by
    simp only [Select.currentValue, Select.data?, h.dataset]
  rw [retained?, retained?, hv]

theorem Kin.shown_disable (h : x.Kin y) : x.disable.shown = y.disable.shown := by
  simp only [shown, disable, Select.reset, Select.withDisabled, h.id, h.dataset]

/-- A load leaves of a field what its reply says and what it keeps. -/
theorem Kin.shown_reload (h : x.Kin y) (reply : Reply) (filter : String) (retain : Bool) :
    (x.reload reply filter retain).shown = (y.reload reply filter retain).shown := by
  simp only [reload, h.endpoint, h.retained?_eq]
  split
  · simp only [shown, decline, disable, Select.reset, Select.withDisabled, h.id, h.dataset]
  · simp only [shown, resolve, beginLoad, Select.populate, Select.reset, Select.withDisabled, h.id, h.dataset]

/-- A load with the same reply brings nothing new. -/
theorem shown_reload_reload (reply : Reply) (filter : String) (retain retain' : Bool) (x : Field) :
    ((x.reload reply filter retain').reload reply filter retain).shown = (x.reload reply filter retain).shown :=
  (kin_reload reply filter retain' x).shown_reload reply filter retain

/-- Where nothing is to be restored, a load that would restore a value is like one that would not. -/
theorem reload_clearRetained (reply : Reply) (filter : String) (retain : Bool) (x : Field) :
    x.clearRetained.reload reply filter retain = x.clearRetained.reload reply filter false := by
  simp only [reload, retained?_clearRetained, ite_self]

theorem phase_disable (x : Field) (g : Nat) : x.disable.phase ≠ .loading g :=
  fun h => by cases h

theorem phase_reload (reply : Reply) (filter : String) (retain : Bool) (x : Field) (g : Nat) :
    (x.reload reply filter retain).phase ≠ .loading g := by
  unfold reload
  split <;> exact fun h => by cases h

theorem value_reload (reply : Reply) (filter : String) (x : Field) :
    (x.reload reply filter false).select.value = "" := by
  unfold reload
  split <;> rfl

end Field

/-! ## What a pick comes to -/

namespace Activity

variable {fixed : String → String → Reply} {f : Form}

theorem play_siteless (retained : Bool) :
    (siteless retained).play fixed f = ((siteless retained).advance f).1 := by
  rw [play_own rfl]
  exact play_ended _

theorem play_restore : (entered .restore).play fixed f =
    if f.site.select.value = "" then ((siteless f.area.retained?.isSome).advance f).1
    else f.reloadAreas fixed f.site.select.value true := by
  rw [play_own rfl]
  simp only [advance, enter]
  split
  · exact play_siteless _
  · exact play_ready_area _ _

theorem play_siteChanged (value : String) : (entered (.siteChanged value)).play fixed f =
    if value = "" then (f.pickSite value).disable [.area, .rack]
    else (f.pickSite value).reloadAreas fixed value false := by
  rw [play_own rfl]
  simp only [advance, enter]
  split
  · exact play_ended _
  · exact play_ready_area _ _

theorem play_areaChanged (value : String) : (entered (.areaChanged value)).play fixed f =
    if value = "" then (f.pickArea value).disable [.rack] else (f.pickArea value).reloadRacks fixed value false := by
  rw [play_own rfl]
  simp only [advance, enter]
  split
  · exact play_ended _
  · exact (play_ready_rack rfl).trans (Form.reload_eq rfl rfl)

end Activity

namespace Form

variable {fixed : String → String → Reply} {f : Form} {y : Field}

/-- The form with other racks. -/
def withRacks (f : Form) (y : Field) : Form :=
  { f with rack := y }

/-- A load of the areas forgets the racks. -/
theorem shown_reloadAreas (hy : y.Kin f.rack) (value : String) (retain : Bool) (l : Level) :
    (((f.withRacks y).reloadAreas fixed value retain).get l).shown =
      ((f.reloadAreas fixed value retain).get l).shown := by
  by_cases hv : (f.area.reload (fixed "site" value) value retain).select.value = ""
  · rw [reloadAreas, reloadAreas, reloadBelow_of_empty hv, reloadBelow_of_empty hv]
    cases l with
    | site => rfl
    | area => rfl
    | rack => exact hy.shown_disable
  · rw [reloadAreas, reloadAreas, reloadBelow_of_ne hv, reloadBelow_of_ne hv]
    cases l with
    | site => rfl
    | area => rfl
    | rack =>
      have hk : y.disable.Kin f.rack.disable := ⟨hy.id, hy.dataset, hy.endpoint⟩
      exact hk.shown_reload _ _ _

end Form

namespace Activity

variable {fixed : String → String → Reply} {f : Form} {y : Field} {call : Call}

/-- **A pick forgets the racks that it finds.** -/
theorem shown_play (hc : call.isPick = true) (hy : y.Kin f.rack) (l : Level) :
    (((entered call).play fixed (f.withRacks y)).get l).shown = (((entered call).play fixed f).get l).shown := by
  cases call with
  | restore =>
    have hsite : (f.withRacks y).site = f.site := rfl
    have harea : (f.withRacks y).area = f.area := rfl
    simp only [play_restore, hsite, harea]
    by_cases hv : f.site.select.value = ""
    · rw [if_pos hv, if_pos hv]
      cases hr : f.area.retained?.isSome <;> cases l <;> first | rfl | exact hy.shown_disable
    · rw [if_neg hv, if_neg hv]
      exact Form.shown_reloadAreas hy _ _ l
  | siteChanged value =>
    have hf : (f.withRacks y).pickSite value = (f.pickSite value).withRacks y.clearRetained := rfl
    simp only [play_siteChanged, hf]
    by_cases hv : value = ""
    · rw [if_pos hv, if_pos hv]
      cases l <;> first | rfl | exact hy.clearRetained.shown_disable
    · rw [if_neg hv, if_neg hv]
      exact Form.shown_reloadAreas hy.clearRetained _ _ l
  | areaChanged value =>
    have hf : (f.withRacks y).pickArea value = (f.pickArea value).withRacks y.clearRetained := rfl
    simp only [play_areaChanged, hf]
    by_cases hv : value = ""
    · rw [if_pos hv, if_pos hv]
      cases l <;> first | rfl | exact hy.clearRetained.shown_disable
    · rw [if_neg hv, if_neg hv]
      cases l <;> first | rfl | exact hy.clearRetained.shown_reload _ _ _
  | load level filter retain => cases hc

end Activity

namespace Form

variable {fixed : String → String → Reply} {f : Form}

/-- Nothing is waited for, and racks are in place for the area that is selected: to load them once more brings nothing
new. -/
structure Brought (fixed : String → String → Reply) (f : Form) : Prop where
  areas : ∀ g, f.area.phase ≠ .loading g
  racks : ∀ g, f.rack.phase ≠ .loading g
  same : f.area.select.value ≠ "" →
    (f.rack.reload (fixed "area" f.area.select.value) f.area.select.value true).shown = f.rack.shown

/-- A form that waits for nothing is settled. -/
theorem settled_of_idle (ha : ∀ g, f.area.phase ≠ .loading g) (hr : ∀ g, f.rack.phase ≠ .loading g)
    (answer : Waiting → Reply) (ws : List Waiting) : f.settled answer fixed ws = f := by
  rw [settled_of_none (awaited?_eq_none ha), settleRack_of_none (awaited?_eq_none hr)]

/-- Without a selected area there are no racks to be in place. -/
theorem brought_of_empty (ha : ∀ g, f.area.phase ≠ .loading g) (hr : ∀ g, f.rack.phase ≠ .loading g)
    (hv : f.area.select.value = "") : f.Brought fixed :=
  ⟨ha, hr, fun h => absurd hv h⟩

theorem brought_reloadAreas (value : String) (retain : Bool) : (f.reloadAreas fixed value retain).Brought fixed := by
  by_cases hv : (f.area.reload (fixed "site" value) value retain).select.value = ""
  · rw [reloadAreas, reloadBelow_of_empty hv]
    exact brought_of_empty (Field.phase_reload _ _ _ _) (Field.phase_disable _) hv
  · rw [reloadAreas, reloadBelow_of_ne hv]
    refine ⟨Field.phase_reload _ _ _ _, Field.phase_reload _ _ _ _, fun _ => ?_⟩
    cases retain with
    | true => exact Field.shown_reload_reload _ _ _ _ _
    | false => exact absurd (Field.value_reload _ _ _) hv

end Form

namespace Activity

variable {fixed : String → String → Reply} {f : Form} {call : Call}

/-- **After a pick, racks are in place for the area that is selected.** -/
theorem brought_play (hc : call.isPick = true) (hf : ∀ g, f.area.phase ≠ .loading g) :
    ((entered call).play fixed f).Brought fixed := by
  cases call with
  | restore =>
    rw [play_restore]
    split
    · cases f.area.retained?.isSome <;>
        exact Form.brought_of_empty (Field.phase_disable _) (Field.phase_disable _) rfl
    · exact Form.brought_reloadAreas _ _
  | siteChanged value =>
    rw [play_siteChanged]
    split
    · exact Form.brought_of_empty (Field.phase_disable _) (Field.phase_disable _) rfl
    · exact Form.brought_reloadAreas _ _
  | areaChanged value =>
    rw [play_areaChanged]
    split
    · next hv => exact Form.brought_of_empty hf (Field.phase_disable _) hv
    · refine ⟨hf, Field.phase_reload _ _ _ _, fun _ => ?_⟩
      have hr := Field.reload_clearRetained (fixed "area" value) value true f.rack
      have hs := Field.shown_reload_reload (fixed "area" value) value true false f.rack.clearRetained
      rw [hr] at hs
      exact hs
  | load level filter retain => cases hc

end Activity

/-! ## The gap -/

/-- No area is selected while areas are waited for. -/
def Form.Unpicked (f : Form) : Prop :=
  ∀ g, f.area.phase = .loading g → f.area.select.value = ""

namespace Form

variable {fixed : String → String → Reply} {answer : Waiting → Reply} {f : Form} {ws : List Waiting} {load : Load}

/-- A load that is outdated changes nothing. -/
theorem reload_of_isOutdated (hl : load.level = .rack) (ho : f.isOutdated load .area = true) :
    f.reload fixed load = f := by
  simp [reload, beginLoad, hl, Level.parent?, ho]

/-- The reply that the racks wait for changes the racks alone. -/
theorem settleRack_eq (answer : Waiting → Reply) (f : Form) (ws : List Waiting) :
    ∃ y : Field, y.Kin f.rack ∧ f.settleRack answer ws = f.withRacks y := by
  unfold settleRack
  split
  · exact ⟨f.rack, ⟨rfl, rfl, rfl⟩, rfl⟩
  · next w _ => exact ⟨f.rack.resolve (answer w) w.pending.wanted, ⟨rfl, rfl, rfl⟩, rfl⟩

/-- When racks are in place for the area that is selected, a load that continues a restored area makes no difference. -/
theorem Brought.shown_reload (hb : (f.settled answer fixed ws).Brought fixed) (hu : f.Unpicked)
    (hl : load.level = .rack) (hretain : load.retain = true) (hne : load.filter ≠ "") (hfirst : load.first ≠ none)
    (l : Level) :
    (((f.reload fixed load).settled answer fixed ws).get l).shown = ((f.settled answer fixed ws).get l).shown := by
  cases ho : f.isOutdated load .area with
  | true => rw [reload_of_isOutdated hl ho]
  | false =>
    have hv : f.area.select.value = load.filter := value_of_isOutdated (fun h => absurd h hfirst) ho
    have harea : ∀ g, f.area.phase ≠ .loading g := fun g hg => hne (hv.symm.trans (hu g hg))
    obtain ⟨y, hy, hs⟩ := settleRack_eq answer f ws
    rw [settled_of_none (awaited?_eq_none harea), hs] at hb ⊢
    rw [reload_eq hl ho, hretain,
      settled_of_idle (f := f.modify .rack _) harea (Field.phase_reload (fixed "area" load.filter) load.filter true _)]
    cases l with
    | site => rfl
    | area => rfl
    | rack =>
      have hsame : (y.reload (fixed "area" f.area.select.value) f.area.select.value true).shown = y.shown :=
        hb.same (by rw [← hv] at hne; exact hne)
      rw [hv] at hsame
      exact (hy.shown_reload _ _ _).symm.trans hsame

end Form

namespace Activity

variable {f : Form} {a : Activity}

/-- If no areas are waited for, none is selected while they are. -/
theorem unpicked_enter (h : ∀ g, f.area.phase ≠ .loading g) (call : Call) : (enter f call).1.Unpicked := by
  have hf : f.Unpicked := fun g hg => absurd hg (h g)
  cases call with
  | restore =>
    simp only [enter]
    split <;> exact hf
  | siteChanged value =>
    simp only [enter]
    split
    · exact fun g hg => rfl
    · exact hf
  | areaChanged value =>
    simp only [enter]
    split <;> exact fun g hg => absurd hg (h g)
  | load level filter retain => exact hf

/-- A section after the start of a call selects no area while areas are waited for. -/
theorem unpicked_advance (h : f.Unpicked) (ha : ∀ c, a ≠ .entered c) : (a.advance f).1.Unpicked := by
  cases a with
  | entered call => exact absurd rfl (ha call)
  | siteless retained => cases retained <;> exact fun g hg => rfl
  | ready load =>
    have hb := Form.begins f load
    have hf : (advance f (.ready load)).1 = (f.beginLoad load).1 := by
      simp only [advance]
      split <;> next h => rw [h]
    rw [hf]
    generalize f.beginLoad load = r at hb ⊢
    cases hb with
    | parentless => exact h
    | outdated => exact h
    | declined => cases load.level <;> first | exact h | exact fun g hg => by cases hg
    | waits => cases load.level <;> first | exact h | exact fun g hg => rfl
  | returned load outcome => exact h
  | waiting p => exact h
  | ended outcome => exact h

theorem unpicked_resume (h : f.Unpicked) (p : Pending) (reply : Reply) : (resume f p reply).1.Unpicked := by
  by_cases hp : (f.get p.load.level).phase = .loading p.generation
  · rw [resume_of_loading hp]
    cases p.load.level with
    | site => exact h
    | area => exact fun g hg => by cases hg
    | rack => exact h
  · rw [resume_of_not_loading hp]
    exact h

/-- If a call stands behind an area that it restored and whose racks come next, that area is on show. What waits was
told what to restore. -/
def Landed (f : Form) : Activity → Prop
  | .waiting p => p.load.level ≠ .site ∧ (p.load.retain = false → p.wanted = none)
  | .returned load outcome => ∀ next, load.next? outcome = some next →
      next.level = .rack ∧ next.retain = true ∧ next.filter ≠ "" ∧ f.area.phase = .populated ∧
        f.area.select.value = next.filter
  | _ => True

theorem landed_advance (h : a.canAdvance = true) : (a.advance f).2.Landed (a.advance f).1 := by
  cases a with
  | entered call =>
    cases call with
    | load level filter retain => trivial
    | restore => simp only [advance, enter]; split <;> trivial
    | siteChanged value => simp only [advance, enter]; split <;> trivial
    | areaChanged value => simp only [advance, enter]; split <;> trivial
  | siteless retained => trivial
  | ready load =>
    have hb := Form.begins f load
    simp only [advance]
    generalize f.beginLoad load = r at hb ⊢
    cases hb with
    | parentless => exact fun next hn => by simp [Load.next?_disabled] at hn
    | outdated => exact fun next hn => by simp [Load.next?_superseded] at hn
    | declined => exact fun next hn => by simp [Load.next?_disabled] at hn
    | waits hp =>
      refine ⟨fun hl => ?_, fun hr => ?_⟩
      · rw [hl] at hp
        cases hp
      · have hr : load.retain = false := hr
        exact if_neg (by simp [hr])
  | returned load outcome =>
    simp only [advance, goOn]
    split <;> trivial
  | waiting p => cases h
  | ended outcome => cases h

theorem landed_resume {p : Pending} (h : (waiting p).Landed f) (reply : Reply) :
    (resume f p reply).2.Landed (resume f p reply).1 := by
  by_cases hp : (f.get p.load.level).phase = .loading p.generation
  · rw [resume_of_loading hp]
    intro next hn
    cases hl : p.load.level with
    | site => exact absurd hl h.1
    | rack => simp [Load.next?_rack hl] at hn
    | area =>
      obtain ⟨hr, hhit⟩ := Load.of_next?_area hl hn
      refine ⟨hr, ?_, (Select.hit?_eq_some hhit).2, rfl, congrArg (·.getD "") hhit⟩
      rw [Load.retain_of_next? hn]
      by_contra hretain
      rw [h.2 (by simpa using hretain)] at hhit
      cases hhit
  · rw [resume_of_not_loading hp]
    exact fun next hn => by simp [Load.next?_superseded] at hn

end Activity

namespace Session

variable {σ : Type} {src : Source σ} {s t : Session σ} {xs : List Section} {number : Nat} {call gap : Call}
variable {a : Activity} {fixed : String → String → Reply}

theorem run_of_step {b : Activity} (h : s.step src number call a = (t, some b)) :
    s.run src number call a = t.run src number call b := by
  rw [run]
  split
  · next h' => rw [h] at h'; cases h'
  · next h' => rw [h] at h'; cases h'; rfl

/-- A run in whose gap a call starts is a run up to the gap, at which that call starts. -/
theorem runWithGap_inv (h : (s.runWithGap src gap number call a).2 = true)
    (ho : (s.poolWith {⟨number, call, a⟩}).Ordered xs) (hn : s.Numbered) (hl : a.Landed s.form) :
    ∃ (t : Session σ) (load : Load) (outcome : Outcome) (ys : List Section),
      (t.poolWith {⟨number, call, .returned load outcome⟩}).Ordered ys ∧ t.Numbered ∧
      (Activity.returned load outcome).Landed t.form ∧
      (s.runWithGap src gap number call a).1 = (t.start src gap).run src number call (.returned load outcome) ∧
      s.run src number call a = t.run src number call (.returned load outcome) := by
  revert h
  fun_induction runWithGap src gap s number call a generalizing xs with
  | case1 s load outcome => exact fun _ => ⟨s, load, outcome, xs, ho, hn, hl, rfl, rfl⟩
  | case2 => exact fun h => by cases h
  | case3 s a hr t b hstep _ ih =>
    intro h
    rw [run_of_step hstep]
    have hs := steps src s number call a
    rw [hstep] at hs
    cases hs with
    | answers hf => exact ih (ordered_answered ho _ _) (hn.sent _ _ _) (Activity.landed_resume hl _) h
    | own ha =>
      exact ih (ordered_section ho (.own ha) rfl rfl rfl rfl) ⟨hn.request_lt, hn.nodup⟩ (Activity.landed_advance ha) h

/-- After a call that starts while no areas are waited for, none is selected while they are. -/
theorem unpicked_of_ran {t : Session σ} {xs : List Section} (h : Ran src none number call s a xs t)
    (ha : ∀ c, a ≠ .entered c) (hs : s.form.Unpicked) : t.form.Unpicked := by
  generalize hg : (none : Option Call) = gap at h
  induction h with
  | ends outcome => exact hs
  | holds hf => exact hs
  | answers hf _ ih => exact ih (fun c => by simp [Activity.resume]) (Activity.unpicked_resume hs _ _) hg
  | own hadv _ ih => exact ih (Activity.advance_ne_entered _ hadv) (Activity.unpicked_advance hs ha) hg
  | gap => cases hg

theorem ran_start (src : Source σ) (s : Session σ) (call : Call) :
    ∃ xs, Ran src none s.started call { s with started := s.started + 1 } (.entered call) xs (s.start src call) :=
  ⟨_, ran_run ..⟩

theorem unpicked_start (h : ∀ g, s.form.area.phase ≠ .loading g) (call : Call) : (s.start src call).form.Unpicked := by
  obtain ⟨xs, hr⟩ := ran_start src s call
  cases hr with
  | own hadv hr =>
    exact unpicked_of_ran hr (Activity.advance_ne_entered _ hadv) (Activity.unpicked_enter h call)

/-- The waiting calls alone are in order. -/
theorem ordered_pool {others : Multiset Thread} (ho : (s.poolWith others).Ordered xs) : s.pool.Ordered xs := by
  have h := ho.leave rfl
  rwa [← Multiset.zero_add (Multiset.ofList _)] at h

/-- A call that starts is in order with those that wait. -/
theorem ordered_start (ho : s.pool.Ordered xs) (call : Call) :
    (poolWith { s with started := s.started + 1 } {⟨s.started, call, .entered call⟩}).Ordered xs := by
  have h := ho.start call
  simp only [pool, poolWith, ← Multiset.cons_add] at h
  exact h

/-- A waiting call that takes its reply is in order with the others. -/
theorem ordered_hand {w : Waiting} (ho : (s.poolWith {w.thread}).Ordered xs) (reply : Reply) :
    ((s.hand w reply).1.poolWith {⟨w.number, w.call, (s.hand w reply).2⟩}).Ordered (xs ++ [s.handSection w reply]) :=
  ordered_section (x := s.handSection w reply) ho .reply rfl rfl rfl rfl

/-- What a form settles to after a call has started. -/
theorem settled_start (hsrc : src.Agrees fixed) (ho : s.pool.Ordered xs) (hn : s.Numbered) (call : Call) :
    (s.start src call).form.settled (Waiting.replyBy fixed) fixed (s.start src call).waiting =
      ((Activity.entered call).play fixed s.form).settled (Waiting.replyBy fixed) fixed s.waiting := by
  obtain ⟨ys, hr⟩ := ran_start src s call
  exact settled_run (s := { s with started := s.started + 1 }) hsrc (ordered_start ho call)
    ⟨hn.request_lt, hn.nodup⟩ hr

/-- A call that goes on with racks changes them alone. -/
theorem run_returned_racks {t : Session σ} {ys : List Section} {load next : Load} {outcome : Outcome}
    (hsrc : src.Agrees fixed) (hn : load.next? outcome = some next) (hl : next.level = .rack)
    (hv : s.form.area.select.value = next.filter) (h : Ran src none number call s (.returned load outcome) ys t) :
    ∃ y : Field, y.Kin s.form.rack ∧ t.form = s.form.withRacks y := by
  have ho : s.form.isOutdated next .area = false := by simp [Form.isOutdated, Form.get, hv]
  obtain ⟨zs, hr⟩ := ran_returned h
  rw [Activity.goOn, hn] at hr
  rcases ran_ready_rack hsrc hl ho hr with ⟨hf, _, _⟩ | ⟨p, _, hb, _⟩
  · rw [hf, Form.reload_eq hl ho]
    exact ⟨_, Field.kin_reload .., rfl⟩
  · rcases Form.beginLoad_eq (by rw [hl]; rfl) ho with ⟨_, hb'⟩ | ⟨_, _, hb'⟩
    · rw [hb] at hb'
      cases (Prod.mk.inj hb').2
    · rw [hb, hl] at hb'
      exact ⟨_, Field.kin_beginLoad _, (Prod.mk.inj hb').1⟩

/-- **A call in the gap and the same call after the first one come to the same.** -/
theorem settled_gap {load : Load} {outcome : Outcome} (hsrc : src.Agrees fixed)
    (ho : (s.poolWith {⟨number, call, .returned load outcome⟩}).Ordered xs) (hn : s.Numbered)
    (hl : (Activity.returned load outcome).Landed s.form) (hc : gap.isPick = true) (l : Level) :
    let t := (s.start src gap).run src number call (.returned load outcome)
    let u := (s.run src number call (.returned load outcome)).start src gap
    ((t.form.settled (Waiting.replyBy fixed) fixed t.waiting).get l).shown =
      ((u.form.settled (Waiting.replyBy fixed) fixed u.waiting).get l).shown := by
  intro t u
  have hrest : ∀ t ∈ ({⟨number, call, .returned load outcome⟩} : Multiset Thread), t.activity.rests = true :=
    fun t ht => by rw [Multiset.mem_singleton.mp ht]; rfl
  obtain ⟨ys, hgap⟩ := ran_start src s gap
  have hrun : Ran src none _ _ _ _ _ (s.run src number call _) := ran_run s number call (.returned load outcome)
  have hgapped := settled_start hsrc (ordered_pool ho) hn gap
  have ht : t.form.settled (Waiting.replyBy fixed) fixed t.waiting = _ :=
    settled_run hsrc (ho.course (course_start hgap _ hrest)) (.of_ran hgap ⟨hn.request_lt, hn.nodup⟩) (ran_run ..)
  have hpool := ho.course (course_ran hrun 0 fun t ht => absurd ht (Multiset.notMem_zero t))
  have hu : u.form.settled (Waiting.replyBy fixed) fixed u.waiting = _ :=
    settled_start hsrc hpool (hn.of_ran hrun) gap
  rw [ht, hu]
  cases hnext : load.next? outcome with
  | none =>
    obtain ⟨hf, hw⟩ := ran_returned_last hnext hrun
    rw [Activity.play_returned_last hnext, hf, hw, hgapped]
  | some next =>
    obtain ⟨hr, hretain, hne, hpop, hv⟩ := hl next hnext
    obtain ⟨n, ho, _, hfirst⟩ := Load.of_next? hnext
    have harea : ∀ g, s.form.area.phase ≠ .loading g := fun g hg => by rw [hpop] at hg; cases hg
    obtain ⟨y, hy, hf⟩ := run_returned_racks hsrc hnext hr hv hrun
    have hgbrought : ((Activity.entered gap).play fixed s.form).Brought fixed := Activity.brought_play hc harea
    have hubrought : ((Activity.entered gap).play fixed (s.form.withRacks y)).Brought fixed :=
      Activity.brought_play hc harea
    rw [Form.settled_of_idle hgbrought.areas hgbrought.racks] at hgapped
    rw [Activity.play_returned_next hnext, Activity.play_ready_rack hr, hf,
      Form.settled_of_idle hubrought.areas hubrought.racks, Activity.shown_play hc hy, ← hgapped]
    rw [← hgapped] at hgbrought
    exact hgbrought.shown_reload (unpicked_start harea gap) hr hretain hne hfirst l

end Session

/-- The event with this call in the gap, or with none. -/
def Event.withGap (gap : Option Call) : Event → Event
  | .start call _ => .start call gap
  | .release request reply _ => .release request reply gap
  | .cancel number => .cancel number

namespace Session

variable {σ : Type} {src : Source σ} {s : Session σ} {xs : List Section} {e : Event} {gap : Call}

/-- What waits was told what to restore. -/
theorem landed_of_waiting {w : Waiting} (ho : s.pool.Ordered xs) (hw : w ∈ s.waiting) (f : Form) :
    (Activity.waiting w.pending).Landed f := by
  obtain ⟨x, hx, _, ha⟩ := asks_of_waiting ho hw
  obtain ⟨_, _, _, _, _, _, hwanted, _⟩ := (ho.runs x hx).asks_inv ha
  refine ⟨level_ne_site ho hw, fun hr => ?_⟩
  rw [hwanted, hr]
  rfl

/-- An event in whose gap a call starts is the event up to the gap, at which that call starts. -/
theorem handle_withGap_inv (ho : s.pool.Ordered xs) (hn : s.Numbered)
    (h : (s.handle src (e.withGap (some gap))).2 = true) :
    ∃ (t : Session σ) (number : Nat) (call : Call) (load : Load) (outcome : Outcome) (ys : List Section),
      (t.poolWith {⟨number, call, .returned load outcome⟩}).Ordered ys ∧ t.Numbered ∧
      (Activity.returned load outcome).Landed t.form ∧
      (s.handle src (e.withGap (some gap))).1 = (t.start src gap).run src number call (.returned load outcome) ∧
      (s.handle src (e.withGap none)).1 = t.run src number call (.returned load outcome) := by
  cases e with
  | cancel number => cases h
  | start call _ =>
    have hs : (poolWith { s with started := s.started + 1 } {⟨s.started, call, .entered call⟩}).Ordered xs :=
      ordered_start ho call
    obtain ⟨t, load, outcome, ys, ht⟩ := runWithGap_inv h hs ⟨hn.request_lt, hn.nodup⟩ trivial
    exact ⟨t, s.started, call, load, outcome, ys, ht⟩
  | release i reply _ =>
    cases htake : s.take? i with
    | none => simp [Event.withGap, handle, releaseWithGap, htake] at h
    | some taken =>
      obtain ⟨w, t⟩ := taken
      have htaken := ho.course (course_take? htake)
      obtain ⟨ht, hw, _⟩ := waiting_of_take? htake
      have htn : t.Numbered := by
        rw [ht]
        exact hn.filter _
      simp only [Event.withGap, handle, releaseWithGap, release, htake] at h ⊢
      obtain ⟨u, load, outcome, ys, hu⟩ := runWithGap_inv h (ordered_hand htaken reply) ⟨htn.request_lt, htn.nodup⟩
        (Activity.landed_resume (landed_of_waiting ho hw _) reply)
      exact ⟨u, w.number, w.call, load, outcome, ys, hu⟩

/-- **The gap behind a restored area is harmless.** Take any session and an event that starts a call or answers one, and
let a pick start in its gap; or let the event pass without, and the pick start after it. When the replies are fixed by
parameter and value, be they given at once or later, and all requests were answered, in any order, then both ways the
three fields have the same selects, phases and last outcomes. -/
theorem gap_harmless (src₀ src : Source σ) (traffic : Traffic σ) (site area rack : Select) (endpoints : Endpoints)
    (events : List Event) (e : Event) (gap : Call) (fixed : String → String → Reply) (o₁ o₂ : List Nat)
    (hsrc : src.Agrees fixed) (hc : gap.isPick = true) :
    let s := (fresh traffic site area rack endpoints).after src₀ events
    let t := (s.handle src (e.withGap (some gap))).1.drain src (Waiting.replyBy fixed) o₁
    let u := (s.after src [e.withGap none, .start gap none]).drain src (Waiting.replyBy fixed) o₂
    (s.handle src (e.withGap (some gap))).2 = true → t.waiting = [] → u.waiting = [] →
      ∀ l, (t.form.get l).shown = (u.form.get l).shown := by
  intro s t u hran ht hu l
  have ho := (fresh_ordered traffic site area rack endpoints).course
    (course_history src₀ (fresh traffic site area rack endpoints) events)
  have hn : s.Numbered := (fresh_numbered traffic site area rack endpoints).after src₀ events
  obtain ⟨v, number, call, load, outcome, ys, hvo, hvn, hvl, hgapped, happart⟩ := handle_withGap_inv ho hn hran
  have hh : Handled src s (e.withGap (some gap)) _ _ := handled s _
  have hto : t.form = _ := form_of_drained hsrc (ho.course (course_handled hh)) (hn.of_handled hh) ht
  have huo : u.form = _ := form_of_drained hsrc (ho.course (course_history src s _)) (hn.after src _) hu
  have hapart : s.after src [e.withGap none, .start gap none] = (s.handle src (e.withGap none)).1.start src gap := rfl
  rw [hto, huo, hapart, happart, hgapped]
  exact settled_gap hsrc hvo hvn hvl hc l

/-- A page with a site and an area to restore: when the areas have come, the same area is picked in the gap, so its
racks are asked for twice; or it is picked after that. -/
theorem gap_harmless_repicked :
    let fixed : String → String → Reply := fun param _ =>
      if param = "site" then .ok [⟨.number 12, "A"⟩] else .ok [⟨.number 40, "R"⟩]
    let s : Session Unit := (fresh { source := () } ((Select.new "id_site").withValue "5")
      ((Select.new "id_area").withData Select.currentValueKey "12") (.new "id_rack")
      ⟨some "/areas/", some "/racks/"⟩).after .holding [.start .restore none]
    let e : Event := .release 0 (fixed "site" "5") none
    let gap : Call := .areaChanged "12"
    let t := (s.handle .holding (e.withGap (some gap))).1.drain .holding (Waiting.replyBy fixed) [1, 2]
    let u := (s.after .holding [e.withGap none, .start gap none]).drain .holding (Waiting.replyBy fixed) [2, 1]
    (s.handle .holding (e.withGap (some gap))).2 = true ∧ t.waiting = [] ∧ u.waiting = [] ∧
      ∀ l, (t.form.get l).shown = (u.form.get l).shown := by
  intro fixed s e gap t u
  have hran : (s.handle .holding (e.withGap (some gap))).2 = true := by decide +kernel
  have ht : t.waiting = [] := by decide +kernel
  have hu : u.waiting = [] := by decide +kernel
  refine ⟨hran, ht, hu, ?_⟩
  exact gap_harmless .holding .holding _ _ _ _ _ _ _ _ fixed _ _ (fun _ _ _ _ h => by cases h) rfl hran ht hu

end Session

end LinkedSelect
