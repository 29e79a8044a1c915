import LinkedSelect.Proofs.Superseding

/-!
# Picks end restoring

A pick clears the values that are to be restored below it, but loads that wait have copied them, and a call between two
loads goes on with what it has restored.

* `Pool.Forgets`: nothing is to be restored at a level, its value was not restored, and no load that the field waits for
  would restore one. Every section keeps this (`Pool.Forgets.course`).
* A pick brings it about by the load that it begins: a load of a level or of one above it, unless it continues another,
  takes the level to a new generation, so that what waits is too late (`Activity.binds`). Until then only the cleared
  values are certain (`Pool.Forgetting`).
* `Session.pick_ends_restoring`: after the event in which a site or an area was picked no rack is restored, and after
  the pick of a site no area.
-/

namespace LinkedSelect

/-! ## Values under deeds -/

theorem Change.retained?_apply (c : Change) {x : Field} (h : x.retained? = none) : (c.apply x).retained? = none := by
  cases c with
  | forget => exact Field.retained?_clearRetained x
  | select value => exact h
  | disable => exact h
  | decline => exact h
  | load => exact h

theorem Change.value_apply {c : Change} (h : c.renews = true) (x : Field) : (c.apply x).select.value = "" := by
  cases c <;> first | rfl | cases h

namespace Form

variable {f : Form} {l : Level} {ds : List Deed}

theorem retained?_perform (h : (f.get l).retained? = none) (d : Deed) : ((f.perform d).get l).retained? = none := by
  rw [get_perform]
  split
  · exact Change.retained?_apply _ h
  · exact h

theorem retained?_replay (h : (f.get l).retained? = none) (ds : List Deed) :
    ((f.replay ds).get l).retained? = none := by
  induction ds generalizing f with
  | nil => exact h
  | cons d ds ih => exact ih (retained?_perform h d)

/-- A value that was cleared is not to be restored. -/
theorem retained?_replay_of_forget (f : Form) (h : ⟨l, .forget⟩ ∈ ds) : ((f.replay ds).get l).retained? = none := by
  induction ds generalizing f with
  | nil => cases h
  | cons d ds ih =>
    rcases List.mem_cons.mp h with rfl | h
    · refine retained?_replay (f := f.perform _) ?_ ds
      rw [get_perform, if_pos rfl]
      exact Field.retained?_clearRetained _
    · exact ih _ h

/-- After some deeds the value of a field is the one it was, or none, or one of those that were selected. -/
theorem value_replay (f : Form) (ds : List Deed) (l : Level) :
    ((f.replay ds).get l).select.value = (f.get l).select.value ∨ ((f.replay ds).get l).select.value = "" ∨
      ⟨l, .select ((f.replay ds).get l).select.value⟩ ∈ ds := by
  induction ds generalizing f with
  | nil => exact Or.inl rfl
  | cons d ds ih =>
    rw [replay_cons]
    rcases ih (f.perform d) with hv | hv | hv
    · rw [hv, get_perform]
      split
      · next hl =>
        obtain ⟨m, c⟩ := d
        subst hl
        cases c with
        | select value => exact Or.inr (Or.inr List.mem_cons_self)
        | forget => exact Or.inl rfl
        | disable => exact Or.inr (Or.inl rfl)
        | decline => exact Or.inr (Or.inl rfl)
        | load => exact Or.inr (Or.inl rfl)
      · exact Or.inl rfl
    · exact Or.inr (Or.inl hv)
    · exact Or.inr (Or.inr (List.mem_cons_of_mem _ hv))

/-- Deeds that load or disable a field, and do nothing else to it, leave it without a value. -/
theorem value_replay_of_renews (f : Form) (h : ∃ d ∈ ds, d.level = l) (hr : ∀ d ∈ ds, d.change.renews = true) :
    ((f.replay ds).get l).select.value = "" := by
  induction ds generalizing f with
  | nil =>
    obtain ⟨d, hd, _⟩ := h
    cases hd
  | cons d ds ih =>
    rw [List.forall_mem_cons] at hr
    rw [replay_cons]
    by_cases hds : ∃ d ∈ ds, d.level = l
    · exact ih _ hds hr.2
    · obtain ⟨e, he, hl⟩ := h
      rcases List.mem_cons.mp he with rfl | he
      · rcases value_replay (f.perform e) ds l with hv | hv | hv
        · rw [hv, get_perform, if_pos hl.symm, Change.value_apply hr.1]
        · exact hv
        · exact absurd ⟨_, hv, rfl⟩ hds
      · exact absurd ⟨e, he, hl⟩ hds

end Form

/-! ## Sections -/

/-- The next section of the call loads this level or one above it, or disables it, whatever is selected. -/
def Activity.binds (l : Level) : Activity → Bool
  | .ready load => load.first.isNone && load.level != .site && (load.level = l || l ∈ load.level.descendants)
  | _ => false

/-- In this section a load of a level ended, and it restored a value. -/
def Section.Restores (x : Section) (l : Level) : Prop :=
  ∃ load n v, x.stop = .returned load (.populated n (some v)) ∧ load.level = l

/-- A value of a level was picked in this section. -/
def Section.Picks (x : Section) (l : Level) (v : String) : Prop :=
  ⟨l, .select v⟩ ∈ x.start.deeds x.before

/-- The call reports a pick above this level. -/
def Call.clears (l : Level) : Call → Bool
  | .siteChanged _ => l != .site
  | .areaChanged _ => l = .rack
  | _ => false

namespace Activity

variable {f : Form} {a : Activity} {l : Level}

theorem binds_of_rests (h : a.rests = true) : a.binds l = false := by
  cases a <;> first | rfl | cases h

theorem binds_of_canAdvance (h : a.canAdvance = false) : a.binds l = false := by
  cases a <;> first | rfl | cases h

theorem exists_deed_of_binds (h : a.binds l = true) :
    (∃ d ∈ a.deeds f, d.level = l) ∧ ∀ d ∈ a.deeds f, d.change.renews = true := by
  cases a with
  | ready load =>
    simp only [binds, Bool.and_eq_true, bne_iff_ne, Bool.or_eq_true, decide_eq_true_eq] at h
    obtain ⟨⟨hfirst, hs⟩, hl⟩ := h
    refine ⟨?_, fun d hd => (Form.of_mem_loadDeeds hd).2.2⟩
    have hparent : ∃ parent, load.level.parent? = some parent := by
      cases hlev : load.level with
      | site => exact absurd hlev hs
      | area => exact ⟨_, rfl⟩
      | rack => exact ⟨_, rfl⟩
    obtain ⟨parent, hp⟩ := hparent
    have ho : f.isOutdated load parent = false := by
      simp [Form.isOutdated, Option.isNone_iff_eq_none.mp hfirst]
    simp only [deeds, Form.loadDeeds, hp, ho]
    rcases hl with hl | hl
    · exact ⟨_, List.mem_append_right _ (List.mem_singleton_self _), hl⟩
    · exact ⟨_, List.mem_append_left _ (List.mem_map_of_mem hl), rfl⟩
  | entered call => cases h
  | siteless retained => cases h
  | waiting p => cases h
  | returned load outcome => cases h
  | ended outcome => cases h

/-- A pick clears what is to be restored below it, and then it is about to load what lies below, or it has disabled
it. -/
theorem enter_of_clears {call : Call} (h : call.clears l = true) :
    ⟨l, .forget⟩ ∈ (entered call).deeds f ∧
      (((entered call).advance f).2.binds l = true ∨
        ((entered call).advance f).2 = .ended .disabled ∧ ⟨l, .disable⟩ ∈ (entered call).deeds f ∧
          (((entered call).advance f).1.get l).select.value = "") := by
  cases call with
  | siteChanged value =>
    by_cases hv : value = ""
    · subst hv
      cases l with
      | site => cases h
      | area => exact ⟨by simp [deeds], Or.inr ⟨rfl, by simp [deeds, disableDeeds], rfl⟩⟩
      | rack => exact ⟨by simp [deeds], Or.inr ⟨rfl, by simp [deeds, disableDeeds], rfl⟩⟩
    · simp only [advance, enter, if_neg hv]
      cases l with
      | site => cases h
      | area => exact ⟨by simp [deeds], Or.inl rfl⟩
      | rack => exact ⟨by simp [deeds], Or.inl rfl⟩
  | areaChanged value =>
    by_cases hv : value = ""
    · subst hv
      cases l with
      | site => cases h
      | area => cases h
      | rack => exact ⟨by simp [deeds], Or.inr ⟨rfl, by simp [deeds, disableDeeds], rfl⟩⟩
    · simp only [advance, enter, if_neg hv]
      cases l with
      | site => cases h
      | area => cases h
      | rack => exact ⟨by simp [deeds], Or.inl rfl⟩
  | restore => cases h
  | load level filter retain => cases h

/-- A load that ends without a reply restores nothing. -/
theorem advance_ne_populated (h : a.canAdvance = true) (load : Load) (n : Nat) (v : Option String) :
    (a.advance f).2 ≠ .returned load (.populated n v) := by
  cases a with
  | entered call => cases call <;> simp only [advance, enter, begin] <;> (try split) <;> exact fun h => by cases h
  | siteless retained => exact fun h => by cases h
  | ready load =>
    have hb := Form.begins f load
    simp only [advance]
    generalize f.beginLoad load = r at hb ⊢
    cases hb <;> exact fun h => by cases h
  | returned load outcome => simp only [advance, goOn]; split <;> exact fun h => by cases h
  | waiting p => cases h
  | ended outcome => cases h

end Activity

namespace Section

variable {x : Section} {l : Level}

theorem Runs.retained? (h : x.Runs) (hf : (x.before.get l).retained? = none) : (x.after.get l).retained? = none := by
  rcases h.own_or_answers with hr | ⟨p, reply, ha⟩
  · rw [(h.after_eq hr).2.1]
    exact Form.retained?_replay hf _
  · rcases h.get_of_answers ha l with he | ⟨_, _, he⟩
    · rw [he]
      exact hf
    · rw [he]
      exact hf

theorem Runs.reply_of_binds (h : x.Runs) (hs : x.start.binds l = true) : x.reply = none := by
  cases h with
  | own => rfl
  | reply => cases hs

/-- What is restored was wanted by a load that the field waited for. -/
theorem Runs.restores_inv (h : x.Runs) (hr : x.Restores l) :
    ∃ p reply, x.Answers p reply ∧ p.load.level = l ∧ (x.before.get l).phase = .loading p.generation ∧
      p.wanted ≠ none := by
  obtain ⟨load, n, v, hs, rfl⟩ := hr
  cases h with
  | own hc => exact absurd hs (Activity.advance_ne_populated hc load n _)
  | @reply number call f p reply =>
    by_cases hp : (f.get p.load.level).phase = .loading p.generation
    · have hs : (Activity.resume f p reply).2 = _ := hs
      rw [Activity.resume_of_loading hp] at hs
      obtain ⟨rfl, ho⟩ := Activity.returned.inj hs
      refine ⟨p, reply, ⟨rfl, rfl⟩, rfl, hp, fun hw => ?_⟩
      rw [hw] at ho
      cases reply <;> cases ho
    · have hs : (Activity.resume f p reply).2 = _ := hs
      rw [Activity.resume_of_not_loading hp] at hs
      cases hs

end Section

/-! ## Courses -/

/-- Nothing is to be restored at a level, its value was not restored but picked in one of the sections `xs`, if there is
one, and no load that the field waits for would restore one. -/
structure Pool.Forgets (q : Pool) (l : Level) (xs : List Section) : Prop where
  retained : (q.form.get l).retained? = none
  value : (q.form.get l).select.value = "" ∨ ∃ z ∈ xs, z.Picks l (q.form.get l).select.value
  wanted : ∀ t ∈ q.threads, ∀ p, t.activity = .waiting p → p.load.level = l →
    (q.form.get l).phase = .loading p.generation → p.wanted = none

/-- Nothing is to be restored at a level, and the level forgets what it was once no call is about to load or to disable
it. -/
structure Pool.Forgetting (q : Pool) (l : Level) (xs : List Section) : Prop where
  retained : (q.form.get l).retained? = none
  settled : (∀ t ∈ q.threads, t.activity.binds l = false) → q.Forgets l xs

namespace Pool

variable {idle : Activity → Prop} {p q : Pool} {l : Level} {xs ys ws : List Section} {x : Section}
  {others : Multiset Thread}

/-- A load that began to wait in a section would restore a value only if there is one to be restored. -/
theorem wanted_of_asks {r : Pending} (hx : x.Runs) (ha : x.Asks r) (h : (x.before.get r.load.level).retained? = none) :
    r.wanted = none := by
  obtain ⟨_, _, _, _, _, _, hw, _⟩ := hx.asks_inv ha
  rw [hw, h, ite_self]

/-- A load that waits during a section, and for which the field waits after it, is one for which it waited before, and
the section neither loads nor disables the field. -/
theorem phase_of_waiting (ho : q.Ordered ws) (hx : x.Runs) (hb : x.before = q.form) {t : Thread}
    (ht : t ∈ q.threads) {r : Pending} (hr : t.activity = .waiting r)
    (hp : (x.after.get r.load.level).phase = .loading r.generation) :
    (q.form.get r.load.level).phase = .loading r.generation ∧ ¬x.Renews r.load.level := by
  rcases hx.loading_inv hp with ⟨p, ha, hl, hgen⟩ | ⟨hbefore, _⟩
  · -- the load that begins to wait is of a later generation
    obtain ⟨y, hy, _, hya⟩ := ho.asked t ht r hr
    have hle := ho.generation_le y hy r hya
    have hnew := (hx.asks_generation ha).1
    rw [hl, hgen, hb] at hnew
    omega
  · have htimely : (x.before.get r.load.level).Timely := by
      rw [hb]
      exact ho.timely _
    refine ⟨hb ▸ hbefore, fun hren => ?_⟩
    have hlt := hx.generation_lt hren
    rw [← htimely _ hbefore, ← hx.timely htimely _ hp] at hlt
    exact Nat.lt_irrefl _ hlt

namespace Forgets

theorem mono (h : q.Forgets l xs) (hs : xs ⊆ ys) : q.Forgets l ys where
  retained := h.retained
  value := by
    rcases h.value with hv | ⟨z, hz, hv⟩
    · exact Or.inl hv
    · exact Or.inr ⟨z, hs hz, hv⟩
  wanted := h.wanted

/-- A section that loads or disables a level makes it forget, if nothing is to be restored. -/
theorem of_renews (ho : q.Ordered ws) (hx : x.Runs) (hb : x.before = q.form) (ht : q.threads = x.entry ::ₘ others)
    (hren : x.Renews l) (hret : (x.after.get l).retained? = none) (hv : (x.after.get l).select.value = "")
    (hask : ∀ r, x.Asks r → r.load.level = l → r.wanted = none) :
    Pool.Forgets { q with form := x.after, threads := x.exit ::ₘ others } l xs where
  retained := hret
  value := Or.inl hv
  wanted t hm r hr hl hp := by
    subst hl
    rcases Multiset.mem_cons.mp hm with rfl | hm
    · exact hask r (hx.asks_of_stop hr) rfl
    · exact absurd hren (phase_of_waiting ho hx hb (mem_of_mem_others ht hm) hr hp).2

theorem start (h : q.Forgets l xs) (call : Call) : Pool.Forgets
    { q with started := q.started + 1, threads := ⟨q.started, call, .entered call⟩ ::ₘ q.threads } l xs where
  retained := h.retained
  value := h.value
  wanted t ht r hr := by
    rcases Multiset.mem_cons.mp ht with rfl | ht
    · cases hr
    · exact h.wanted t ht r hr

theorem leave {gone : Multiset Thread} (h : q.Forgets l xs) (ht : q.threads = gone + others) :
    Pool.Forgets { q with threads := others } l xs where
  retained := h.retained
  value := h.value
  wanted t hm := h.wanted t (mem_of_mem_rest ht hm)

/-- Every section keeps a level without restored values. -/
theorem act (h : q.Forgets l xs) (ho : q.Ordered ws) (hx : x.Runs) (hb : x.before = q.form)
    (ht : q.threads = x.entry ::ₘ others) :
    Pool.Forgets { q with form := x.after, threads := x.exit ::ₘ others } l (xs ++ [x]) where
  retained := hx.retained? (by rw [hb]; exact h.retained)
  value := by
    have hold : (x.after.get l).select.value = (q.form.get l).select.value →
        (x.after.get l).select.value = "" ∨ ∃ z ∈ xs ++ [x], z.Picks l (x.after.get l).select.value := fun he => by
      rw [he]
      rcases h.value with hv | ⟨z, hz, hv⟩
      · exact Or.inl hv
      · exact Or.inr ⟨z, List.mem_append_left _ hz, hv⟩
    rcases hx.own_or_answers with hr | ⟨r, reply, ha⟩
    · rcases Form.value_replay x.before (x.start.deeds x.before) l with he | he | he <;>
        rw [← (hx.after_eq hr).2.1] at he
      · exact hold (by rw [he, hb])
      · exact Or.inl he
      · exact Or.inr ⟨x, List.mem_append_right _ (List.mem_singleton_self x), he⟩
    · rcases hx.get_of_answers ha l with he | ⟨hl, hp, he⟩
      · exact hold (by rw [he, hb])
      · have hw := h.wanted x.entry (mem_of_eq_cons ht) r ha.1 hl.symm (by rw [← hb]; exact hp)
        left
        show (x.after.get l).select.value = ""
        rw [he, hw]
        rfl
  wanted t hm r hr hl hp := by
    subst hl
    rcases Multiset.mem_cons.mp hm with rfl | hm
    · exact wanted_of_asks hx (hx.asks_of_stop hr) (by rw [hb]; exact h.retained)
    · have hm := mem_of_mem_others ht hm
      exact h.wanted t hm r hr rfl (phase_of_waiting ho hx hb hm hr hp).1

theorem course (h : p.Forgets l xs) (ho : p.Ordered ws) (hc : Course idle p ys q) : q.Forgets l (xs ++ ys) := by
  induction hc with
  | nil => rw [List.append_nil]; exact h
  | start call _ _ ih => exact ih.start call
  | leave _ ht _ ih => exact ih.leave ht
  | act hc hx hb ht _ ih =>
    rw [← List.append_assoc]
    exact ih.act (ho.course hc) hx hb ht

/-- While a level has no restored values, no load of it restores one. -/
theorem not_restores (h : q.Forgets l xs) (hx : x.Runs) (hb : x.before = q.form)
    (ht : q.threads = x.entry ::ₘ others) : ¬x.Restores l := by
  intro hr
  obtain ⟨r, reply, ha, hl, hp, hw⟩ := hx.restores_inv hr
  rw [hb] at hp
  exact hw (h.wanted x.entry (mem_of_eq_cons ht) r ha.1 hl hp)

/-- The pool after one of the sections of a course. -/
theorem through {us vs : List Section} (h : p.Forgets l xs) (ho : p.Ordered ws) (hc : Course idle p (us ++ x :: vs) q) :
    ¬x.Restores l ∧ ∃ r : Pool, r.form = x.after ∧ r.Forgets l (xs ++ (us ++ [x])) := by
  obtain ⟨r, others, hus, hb, hx, ht, _, _⟩ := hc.cut
  have hr := h.course ho hus
  have hact := hr.act (ho.course hus) hx hb.symm ht
  rw [List.append_assoc] at hact
  exact ⟨hr.not_restores hx hb.symm ht, _, rfl, hact⟩

end Forgets

namespace Forgetting

theorem start (h : q.Forgetting l xs) (call : Call) : Pool.Forgetting
    { q with started := q.started + 1, threads := ⟨q.started, call, .entered call⟩ ::ₘ q.threads } l xs where
  retained := h.retained
  settled hb := (h.settled fun t ht => hb t (Multiset.mem_cons_of_mem ht)).start call

theorem leave {gone : Multiset Thread} (h : q.Forgetting l xs) (ht : q.threads = gone + others)
    (hg : ∀ t ∈ gone, t.activity.canAdvance = false) : Pool.Forgetting { q with threads := others } l xs where
  retained := h.retained
  settled hb := (h.settled (forall_of_eq_add ht (fun t hm => Activity.binds_of_canAdvance (hg t hm)) hb)).leave ht

/-- A section in which a pick starts. -/
theorem of_pick {call : Call} (ho : q.Ordered ws) (hx : x.Runs) (hb : x.before = q.form)
    (ht : q.threads = x.entry ::ₘ others) (hc : x.start = .entered call) (hl : call.clears l = true) :
    Pool.Forgetting { q with form := x.after, threads := x.exit ::ₘ others } l xs := by
  have hr : x.reply = none := by
    cases hx with
    | own => rfl
    | reply => cases hc
  obtain ⟨_, hafter, hstop⟩ := hx.after_eq hr
  obtain ⟨hforget, hnext⟩ := Activity.enter_of_clears (f := x.before) hl
  rw [← Activity.replay_deeds, ← hc, ← hafter, ← hstop] at hnext
  rw [← hc] at hforget
  have hret : (x.after.get l).retained? = none := by
    rw [hafter]
    exact Form.retained?_replay_of_forget _ hforget
  refine ⟨hret, fun hb' => ?_⟩
  rcases hnext with hbinds | ⟨hended, hdisable, hv⟩
  · have := hb' x.exit (Multiset.mem_cons_self _ _)
    rw [show x.exit.activity = x.stop from rfl, hbinds] at this
    cases this
  · refine .of_renews ho hx hb ht ⟨_, hdisable, rfl, rfl⟩ hret hv fun r ha _ => ?_
    rw [ha.2] at hended
    cases hended

theorem act (h : q.Forgetting l xs) (ho : q.Ordered ws) (hx : x.Runs) (hb : x.before = q.form)
    (ht : q.threads = x.entry ::ₘ others) (hi : ∀ t ∈ others, t.activity.rests = true) :
    Pool.Forgetting { q with form := x.after, threads := x.exit ::ₘ others } l (xs ++ [x]) where
  retained := hx.retained? (by rw [hb]; exact h.retained)
  settled _ := by
    have hretained : (x.before.get l).retained? = none := by rw [hb]; exact h.retained
    cases hs : x.start.binds l with
    | true =>
      obtain ⟨⟨d, hd, hl⟩, hren⟩ := Activity.exists_deed_of_binds (f := x.before) hs
      refine .of_renews ho hx hb ht ⟨d, hd, hl, hren d hd⟩ (hx.retained? hretained) ?_ fun r ha hr => ?_
      · rw [(hx.after_eq (hx.reply_of_binds hs)).2.1]
        exact Form.value_replay_of_renews _ ⟨d, hd, hl⟩ hren
      · exact wanted_of_asks hx ha (by rw [hr]; exact hretained)
    | false =>
      exact (h.settled (forall_of_eq_cons ht hs fun t hm => Activity.binds_of_rests (hi t hm))).act ho hx hb ht

theorem course (h : p.Forgetting l xs) (ho : p.Ordered ws) (hc : Course (·.rests = true) p ys q) :
    q.Forgetting l (xs ++ ys) := by
  induction hc with
  | nil => rw [List.append_nil]; exact h
  | start call _ _ ih => exact ih.start call
  | leave _ ht hg ih => exact ih.leave ht hg
  | act hc hx hb ht hi ih =>
    rw [← List.append_assoc]
    exact ih.act (ho.course hc) hx hb ht hi

end Forgetting

end Pool

/-! ## Sessions -/

/-- No area is selected, or one that was picked in one of the sections `xs`. -/
def Form.AreaPicked (f : Form) (xs : List Section) : Prop :=
  f.area.select.value = "" ∨ ∃ z ∈ xs, z.start = .entered (.areaChanged f.area.select.value)

namespace Pool.Forgets

variable {q : Pool} {xs : List Section}

theorem areaPicked (h : q.Forgets .area xs) : q.form.AreaPicked xs := by
  rcases h.value with hv | ⟨z, hz, hv⟩
  · exact Or.inl hv
  · refine Or.inr ⟨z, hz, ?_⟩
    rcases Activity.of_mem_deeds hv with ⟨v, _, he⟩ | ⟨v, hs, he⟩ | ⟨_, hn⟩
    · cases he
    · rw [hs, ← Change.select.inj (Deed.mk.inj he).2]
      rfl
    · exact absurd rfl (hn _)

theorem rack_unselected (h : q.Forgets .rack xs) : q.form.rack.select.value = "" := by
  rcases h.value with hv | ⟨z, hz, hv⟩
  · exact hv
  · rcases Activity.of_mem_deeds hv with ⟨v, _, he⟩ | ⟨v, _, he⟩ | ⟨_, hn⟩
    · cases he
    · cases he
    · exact absurd rfl (hn _)

end Pool.Forgets

namespace Session

variable {σ : Type} {src : Source σ} {s t : Session σ} {l : Level} {ws ys : List Section} {e : Event}

/-- After the event in which a pick was reported, what lies below has forgotten what it was. -/
theorem forgets_of_handled (h : Handled src s e ys t) (ho : s.pool.Ordered ws) {x : Section} (hx : x ∈ ys) {call : Call}
    (hc : x.start = .entered call) (hl : call.clears l = true) : t.pool.Forgets l ys := by
  have hcourse := course_handled h
  obtain ⟨us, vs, rfl⟩ := List.append_of_mem hx
  obtain ⟨q, others, hus, hb, hruns, ht, hi, hvs⟩ := hcourse.cut
  have hoq := ho.course hus
  have hpick : Pool.Forgetting { q with form := x.after, threads := x.exit ::ₘ others } l [] :=
    .of_pick hoq hruns hb.symm ht hc hl
  have hf : t.pool.Forgetting l vs := hpick.course (hoq.act hruns hb.symm ht) hvs
  refine (hf.settled fun u hu => Activity.binds_of_rests ?_).mono fun z hz => ?_
  · exact rests_of_mem (fun t ht => absurd ht (Multiset.notMem_zero t)) u hu
  · exact List.mem_append_right _ (List.mem_cons_of_mem _ hz)

/-- **Picks end restoring.** Whatever calls and replies come before and after the event in which a site or an area was
picked: from the end of that event on no rack is selected, and no load of the racks restores one. If a site was picked,
no load of the areas restores one either, and an area that is selected was picked in that event or later. -/
theorem pick_ends_restoring (src : Source σ) (traffic : Traffic σ) (site area rack : Select) (endpoints : Endpoints)
    (events later : List Event) (e : Event) :
    let s := (fresh traffic site area rack endpoints).after src events
    let t := (s.handle src e).1
    let ys := s.eventSections src e
    let zs := t.history src later
    ∀ x ∈ ys, ∀ v,
      (x.start = .entered (.siteChanged v) ∨ x.start = .entered (.areaChanged v) →
        (t.after src later).form.rack.select.value = "" ∧
        ∀ z ∈ zs, z.after.rack.select.value = "" ∧ ¬z.Restores .rack) ∧
      (x.start = .entered (.siteChanged v) →
        (t.after src later).form.AreaPicked (ys ++ zs) ∧
        ∀ us z ws, zs = us ++ z :: ws → z.after.AreaPicked (ys ++ (us ++ [z])) ∧ ¬z.Restores .area) := by
  intro s t ys zs x hx v
  have ho : s.pool.Ordered _ :=
    (fresh_ordered traffic site area rack endpoints).course (course_history src _ events)
  have ht : t.pool.Ordered _ := ho.course (course_handled (handled s e))
  have hlater : Course _ t.pool zs (t.after src later).pool := course_history src t later
  refine ⟨fun hpick => ?_, fun hsite => ?_⟩
  · have hrack : t.pool.Forgets .rack ys := by
      rcases hpick with hs | hs
      · exact forgets_of_handled (handled s e) ho hx hs rfl
      · exact forgets_of_handled (handled s e) ho hx hs rfl
    refine ⟨(hrack.course ht hlater).rack_unselected, fun z hz => ?_⟩
    obtain ⟨us, ws, hzs⟩ := List.append_of_mem hz
    rw [hzs] at hlater
    obtain ⟨hn, r, hr, hf⟩ := hrack.through ht hlater
    exact ⟨hr ▸ hf.rack_unselected, hn⟩
  · have harea : t.pool.Forgets .area ys := forgets_of_handled (handled s e) ho hx hsite rfl
    refine ⟨(harea.course ht hlater).areaPicked, fun us z ws hzs => ?_⟩
    rw [hzs] at hlater
    obtain ⟨hn, r, hr, hf⟩ := harea.through ht hlater
    exact ⟨hr ▸ hf.areaPicked, hn⟩

/-- A page on which the areas of a site are asked for to restore one and a rack in it. -/
def restoring : Session Unit :=
  (fresh { source := () } ((Select.new "id_site").withValue "5")
    ((Select.new "id_area").withData Select.currentValueKey "12")
    ((Select.new "id_rack").withData Select.currentValueKey "40") ⟨some "/areas/", some "/racks/"⟩).after .holding
      [.start .restore none]

/-- The area is restored and another site is picked before its racks are loaded; the areas of that site, when they
come, are the same, and none is selected. -/
theorem restoring_ends :
    let e : Event := .release 0 (.ok [⟨.number 12, "A"⟩]) (some (.siteChanged "6"))
    let t := (restoring.handle .holding e).1
    let u := t.after .holding [.release 1 (.ok [⟨.number 12, "A"⟩]) none]
    (∃ x ∈ restoring.eventSections .holding e, x.start = .entered (.siteChanged "6")) ∧
      u.form.rack.select.value = "" ∧ u.form.area.select.value = "" ∧ u.form.area.select.entries.length = 2 := by
  intro e t u
  have hx : ∃ x ∈ restoring.eventSections .holding e, x.start = .entered (.siteChanged "6") := by decide +kernel
  have hentries : u.form.area.select.entries.length = 2 := by decide +kernel
  have hnone : ∀ z ∈ restoring.eventSections .holding e ++
      t.history .holding [.release 1 (.ok [⟨.number 12, "A"⟩]) none],
      z.start ≠ .entered (.areaChanged u.form.area.select.value) := by decide +kernel
  refine ⟨hx, ?_⟩
  obtain ⟨x, hx, hs⟩ := hx
  obtain ⟨hrack, harea⟩ := pick_ends_restoring .holding _ _ _ _ _ [.start .restore none]
    [.release 1 (.ok [⟨.number 12, "A"⟩]) none] e x hx "6"
  refine ⟨(hrack (Or.inl hs)).1, ?_, hentries⟩
  rcases (harea hs).1 with hv | ⟨z, hz, hv⟩
  · exact hv
  · exact absurd hv (hnone z hz)

end Session

end LinkedSelect
