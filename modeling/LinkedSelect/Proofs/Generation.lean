import Mathlib.Data.Multiset.MapFold
import Mathlib.Data.Multiset.UnionInter
import LinkedSelect.Proofs.Course
import LinkedSelect.Proofs.Replies

/-!
# Generations tell loads apart

`Pool.Ordered` is what every course keeps (`Pool.Ordered.course`): calls have numbers of their own, a field that waits
waits for its present generation, and the loads of one field that began to wait have rising generations. So a waiting
load is the one its field waits for exactly if since its beginning no other load of that field has begun and the field
was not disabled (`Course.loading_iff`).

* `Section.Runs.asks_inv`, `Section.Runs.answers_inv` and `Section.Runs.get_of_answers` say what a section does in which
  a load begins to wait or takes its reply, and `Section.Runs.loading_inv` what a field waits for after a section.
* `Pool.Ordered.eq_of_asks`: level and generation determine the section in which a load began to wait.
-/

namespace LinkedSelect

/-! ## Sections that take a reply, and sections in which a load begins to wait -/

namespace Activity

/-- A call begins to wait in the section in which its load begins. -/
theorem advance_eq_waiting {f : Form} {a : Activity} {p : Pending} (h : a.canAdvance = true)
    (hw : (a.advance f).2 = .waiting p) : a = .ready p.load ∧ f.beginLoad p.load = ((a.advance f).1, .waits p) := by
  cases a with
  | entered call =>
    cases call with
    | restore => simp only [advance, enter, begin] at hw; split at hw <;> cases hw
    | siteChanged value => simp only [advance, enter, begin] at hw; split at hw <;> cases hw
    | areaChanged value => simp only [advance, enter, begin] at hw; split at hw <;> cases hw
    | load level filter retain => cases hw
  | siteless retained => cases hw
  | ready load =>
    simp only [advance] at hw ⊢
    split at hw
    · cases hw
    · next g q hb =>
      cases hw
      rw [load_of_beginLoad hb]
      exact ⟨rfl, hb⟩
  | returned load outcome =>
    simp only [advance, goOn] at hw
    split at hw <;> cases hw
  | waiting p => cases h
  | ended outcome => cases h

/-- Disabling what lies below a level leaves no other field loading. -/
theorem loading_of_disable_descendants {f : Form} {l m : Level} {g : Nat}
    (h : ((f.disable m.descendants).get l).phase = .loading g) : (f.get l).phase = .loading g := by
  cases m <;> cases l <;> first | exact h | cases h

/-- A section of a call's own leaves a field loading only if it was loading before, or if the load has just begun to
wait. -/
theorem loading_advance {f : Form} {a : Activity} {l : Level} {g : Nat}
    (h : ((a.advance f).1.get l).phase = .loading g) :
    (f.get l).phase = .loading g ∨ ∃ p, (a.advance f).2 = .waiting p ∧ p.load.level = l ∧ p.generation = g := by
  cases a with
  | entered call =>
    left
    cases call with
    | restore => simp only [advance, enter] at h; split at h <;> exact h
    | siteChanged value =>
      simp only [advance, enter] at h
      split at h <;> cases l <;> first | exact h | cases h
    | areaChanged value =>
      simp only [advance, enter] at h
      split at h <;> cases l <;> first | exact h | cases h
    | load level filter retain => exact h
  | siteless retained =>
    left
    cases retained <;> cases l <;> first | exact h | cases h
  | ready load =>
    have hb := Form.begins f load
    simp only [advance] at h ⊢
    generalize f.beginLoad load = r at hb h ⊢
    cases hb with
    | parentless => exact Or.inl h
    | outdated => exact Or.inl h
    | declined =>
      rw [Form.get_modify] at h
      split at h
      · cases h
      · exact Or.inl (loading_of_disable_descendants h)
    | waits =>
      rw [Form.get_modify] at h
      split at h
      · next hl =>
        subst hl
        rw [Form.get_disable_descendants] at h
        exact Or.inr ⟨_, rfl, rfl, Phase.loading.inj h⟩
      · exact Or.inl (loading_of_disable_descendants h)
  | returned load outcome => exact Or.inl h
  | waiting p => exact Or.inl h
  | ended outcome => exact Or.inl h

end Activity

namespace Section

variable {x : Section} {p : Pending} {reply : Reply} {l : Level}

/-- A section that is not one of taking a reply changes the form by its deeds. -/
theorem Runs.after_eq (h : x.Runs) (hr : x.reply = none) :
    x.start.canAdvance = true ∧ x.after = x.before.replay (x.start.deeds x.before) ∧
      x.stop = (x.start.advance x.before).2 := by
  cases h with
  | own h => exact ⟨h, (Activity.replay_deeds _ _).symm, rfl⟩
  | reply => cases hr

/-- A call that waits after a section has just begun to. -/
theorem Runs.asks_of_stop (h : x.Runs) (hs : x.stop = .waiting p) : x.Asks p := by
  cases h with
  | own hc => exact ⟨(Activity.advance_eq_waiting hc hs).1, hs⟩
  | reply => cases hs

/-- What is asked when a load begins to wait. -/
theorem Runs.asks_inv (h : x.Runs) (ha : x.Asks p) :
    ∃ parent endpoint, p.load.level.parent? = some parent ∧ x.before.isOutdated p.load parent = false ∧
      x.before.endpoint? p.load.level p.load.filter = some endpoint ∧
      p.request = ⟨endpoint, parent.name, p.load.filter⟩ ∧
      p.wanted = (if p.load.retain then (x.before.get p.load.level).retained? else none) ∧
      p.generation = (x.before.get p.load.level).generation + 1 ∧
      x.after = (x.before.disable p.load.level.descendants).modify p.load.level .beginLoad := by
  cases h with
  | reply => cases ha.1
  | @own number call form a hc =>
    obtain ⟨rfl, hb⟩ := Activity.advance_eq_waiting hc ha.2
    have hbegins := Form.begins form p.load
    generalize hr : form.beginLoad p.load = r at hbegins
    rw [hb] at hr
    cases hbegins with
    | parentless => cases (Prod.mk.inj hr).2
    | outdated => cases (Prod.mk.inj hr).2
    | declined => cases (Prod.mk.inj hr).2
    | waits hp ho he =>
      obtain ⟨hf, hw⟩ := Prod.mk.inj hr
      have hw := Begun.waits.inj hw
      exact ⟨_, _, hp, ho, he, congrArg Pending.request hw, congrArg Pending.wanted hw,
        congrArg Pending.generation hw, hf⟩

/-- A load that begins to wait does so in the new generation of its field, for which the field waits. -/
theorem Runs.asks_generation (h : x.Runs) (ha : x.Asks p) :
    p.generation = (x.before.get p.load.level).generation + 1 ∧
      (x.after.get p.load.level).generation = p.generation ∧
      (x.after.get p.load.level).phase = .loading p.generation := by
  obtain ⟨parent, endpoint, _, _, _, _, _, hg, hf⟩ := h.asks_inv ha
  rw [hf, Form.get_modify, if_pos rfl, Form.get_disable_descendants, hg]
  exact ⟨rfl, rfl, rfl⟩

/-- A section in which a waiting load gets its reply. -/
theorem Runs.answers_inv (h : x.Runs) (ha : x.Answers p reply) :
    (x.after, x.stop) = Activity.resume x.before p reply := by
  cases h with
  | own hc => cases ha.2
  | reply =>
    obtain ⟨hs, hr⟩ := ha
    cases hs
    cases hr
    rfl

/-- The reply that the field waits for is applied, and no other. -/
theorem Runs.applies_iff (h : x.Runs) (ha : x.Answers p reply) :
    x.Applies ↔ (x.before.get p.load.level).phase = .loading p.generation := by
  have he := h.answers_inv ha
  by_cases hl : (x.before.get p.load.level).phase = .loading p.generation
  · rw [Activity.resume_of_loading hl] at he
    obtain ⟨-, hs⟩ := Prod.mk.inj he
    exact ⟨fun _ => hl, fun _ => ⟨_, _, hs, Field.outcomeOf_ne_superseded _ _⟩⟩
  · rw [Activity.resume_of_not_loading hl] at he
    obtain ⟨-, hs⟩ := Prod.mk.inj he
    refine ⟨fun ⟨load, outcome, hs', ho⟩ => ?_, fun h => absurd h hl⟩
    rw [hs] at hs'
    cases hs'
    exact absurd rfl ho

/-- A reply leaves the generations as they are, and a field that it changes is populated. -/
theorem Runs.get_of_answers (h : x.Runs) (ha : x.Answers p reply) (l : Level) :
    x.after.get l = x.before.get l ∨
      l = p.load.level ∧ (x.before.get l).phase = .loading p.generation ∧
        x.after.get l = (x.before.get l).resolve reply p.wanted := by
  have he := h.answers_inv ha
  by_cases hl : (x.before.get p.load.level).phase = .loading p.generation
  · rw [Activity.resume_of_loading hl] at he
    rw [(Prod.mk.inj he).1, Form.get_modify]
    split
    · next h => subst h; exact Or.inr ⟨rfl, hl, rfl⟩
    · exact Or.inl rfl
  · rw [Activity.resume_of_not_loading hl] at he
    rw [(Prod.mk.inj he).1]
    exact Or.inl rfl

/-- A reply leaves the other fields as they are. -/
theorem Runs.get_of_answers_ne (h : x.Runs) (ha : x.Answers p reply) (hl : p.load.level ≠ l) :
    x.after.get l = x.before.get l := by
  rcases h.get_of_answers ha l with he | ⟨he, _⟩
  · exact he
  · exact absurd he.symm hl

/-- A reply leaves a disabled field as it is. -/
theorem Runs.get_of_answers_disabled (h : x.Runs) (ha : x.Answers p reply) (hd : (x.before.get l).phase = .disabled) :
    x.after.get l = x.before.get l := by
  rcases h.get_of_answers ha l with he | ⟨_, hp, _⟩
  · exact he
  · rw [hd] at hp
    cases hp

/-- A field that is not disabled after a reply was not disabled before. -/
theorem Runs.phase_of_answers (h : x.Runs) (ha : x.Answers p reply) (hp : (x.after.get l).phase ≠ .disabled) :
    (x.before.get l).phase ≠ .disabled := fun hd =>
  hp ((congrArg Field.phase (h.get_of_answers_disabled ha hd)).trans hd)

/-- A section is one of the call's own or one that takes a reply. -/
theorem Runs.own_or_answers (h : x.Runs) : x.reply = none ∨ ∃ p reply, x.Answers p reply := by
  cases h with
  | own _ => exact Or.inl rfl
  | reply => exact Or.inr ⟨_, _, rfl, rfl⟩

/-- A call that was waiting before a section takes its reply in it. -/
theorem Runs.answers_of_waiting (h : x.Runs) (hs : x.start = .waiting p) : ∃ reply, x.Answers p reply := by
  cases h with
  | own ha =>
    cases hs
    cases ha
  | reply => exact ⟨_, hs, rfl⟩

/-- What a field waits for after a section is a load that has begun to wait in it; or the field waited for it before,
and the section did not take the reply. -/
theorem Runs.loading_inv (h : x.Runs) {g : Nat} (hg : (x.after.get l).phase = .loading g) :
    (∃ p, x.Asks p ∧ p.load.level = l ∧ p.generation = g) ∨
      (x.before.get l).phase = .loading g ∧
        ∀ p reply, x.Answers p reply → ¬(p.load.level = l ∧ p.generation = g) := by
  cases h with
  | @own number call f a ha =>
    rcases Activity.loading_advance hg with hf | ⟨p, hp, hl⟩
    · exact Or.inr ⟨hf, fun p reply hr => by cases hr.2⟩
    · exact Or.inl ⟨p, Runs.asks_of_stop (.own ha) hp, hl⟩
  | @reply number call f p reply =>
    right
    by_cases hp : (f.get p.load.level).phase = .loading p.generation
    · have hg : ((Activity.resume f p reply).1.get l).phase = .loading g := hg
      rw [Activity.resume_of_loading hp, Form.get_modify] at hg
      split at hg
      · cases hg
      · next hl =>
        refine ⟨hg, fun r reply' hr h => hl ?_⟩
        cases hr.1
        exact h.1.symm
    · have hg : ((Activity.resume f p reply).1.get l).phase = .loading g := hg
      rw [Activity.resume_of_not_loading hp] at hg
      refine ⟨hg, fun r reply' hr h => hp ?_⟩
      cases hr.1
      rw [h.1, h.2]
      exact hg

/-- A section that takes a reply begins no load and disables nothing. -/
theorem Answers.not_renews (ha : x.Answers p reply) (l : Level) : ¬x.Renews l := by
  rintro ⟨d, hd, _⟩
  rw [ha.1] at hd
  cases hd

theorem Runs.generation_le (h : x.Runs) (l : Level) : (x.before.get l).generation ≤ (x.after.get l).generation := by
  rcases h.own_or_answers with hr | ⟨p, reply, ha⟩
  · rw [(h.after_eq hr).2.1]
    exact Form.generation_le_replay _ _ l
  · rcases h.get_of_answers ha l with he | ⟨_, _, he⟩
    · rw [he]
    · rw [he]; exact Nat.le_refl _

/-- A section in which a load of a level begins or the level is disabled takes it to a later generation. -/
theorem Runs.generation_lt (h : x.Runs) (hr : x.Renews l) :
    (x.before.get l).generation < (x.after.get l).generation := by
  rcases h.own_or_answers with hreply | ⟨p, reply, ha⟩
  · rw [(h.after_eq hreply).2.1]
    exact Form.generation_lt_replay _ hr
  · exact absurd hr (ha.not_renews l)

theorem Runs.timely (h : x.Runs) {l : Level} (ht : (x.before.get l).Timely) : (x.after.get l).Timely := by
  rcases h.own_or_answers with hr | ⟨p, reply, ha⟩
  · rw [(h.after_eq hr).2.1]
    exact Form.timely_replay ht _
  · rcases h.get_of_answers ha l with he | ⟨_, _, he⟩
    · rw [he]; exact ht
    · rw [he]; exact fun g hg => by cases hg

end Section

/-! ## The invariant of courses -/

/-- Calls have numbers of their own; a field that waits waits for its present generation; and the loads of one field
that began to wait, in the sections `xs`, have rising generations. -/
structure Pool.Ordered (q : Pool) (xs : List Section) : Prop where
  runs : ∀ x ∈ xs, x.Runs
  number_lt : ∀ t ∈ q.threads, t.number < q.started
  numbers : (q.threads.map Thread.number).Nodup
  timely : ∀ l, (q.form.get l).Timely
  generation_le : ∀ x ∈ xs, ∀ p, x.Asks p → p.generation ≤ (q.form.get p.load.level).generation
  rising : xs.Pairwise fun x y => ∀ p r, x.Asks p → y.Asks r → p.load.level = r.load.level → p.generation < r.generation
  asked : ∀ t ∈ q.threads, ∀ p, t.activity = .waiting p → ∃ x ∈ xs, x.number = t.number ∧ x.Asks p

namespace Pool.Ordered

variable {idle : Activity → Prop} {p q : Pool} {xs ys : List Section}

theorem start (h : q.Ordered xs) (call : Call) : Pool.Ordered
    { q with started := q.started + 1, threads := ⟨q.started, call, .entered call⟩ ::ₘ q.threads } xs where
  runs := h.runs
  number_lt t ht := by
    rcases Multiset.mem_cons.mp ht with rfl | ht
    · exact Nat.lt_succ_self _
    · exact Nat.lt_succ_of_lt (h.number_lt t ht)
  numbers := by
    rw [Multiset.map_cons, Multiset.nodup_cons]
    refine ⟨fun hm => ?_, h.numbers⟩
    obtain ⟨t, ht, hn⟩ := Multiset.mem_map.mp hm
    exact absurd (h.number_lt t ht) (by rw [hn]; exact Nat.lt_irrefl _)
  timely := h.timely
  generation_le := h.generation_le
  rising := h.rising
  asked t ht p hp := by
    rcases Multiset.mem_cons.mp ht with rfl | ht
    · cases hp
    · exact h.asked t ht p hp

theorem leave {gone others : Multiset Thread} (h : q.Ordered xs) (ht : q.threads = gone + others) :
    Pool.Ordered { q with threads := others } xs where
  runs := h.runs
  number_lt t hm := h.number_lt t (Pool.mem_of_mem_rest ht hm)
  numbers := by
    have := h.numbers
    rw [ht, Multiset.map_add] at this
    exact (Multiset.nodup_add.mp this).2.1
  timely := h.timely
  generation_le := h.generation_le
  rising := h.rising
  asked t hm := h.asked t (Pool.mem_of_mem_rest ht hm)

theorem act {x : Section} {others : Multiset Thread} (h : q.Ordered xs) (hx : x.Runs) (hb : x.before = q.form)
    (ht : q.threads = x.entry ::ₘ others) : Pool.Ordered
      { q with form := x.after, threads := x.exit ::ₘ others } (xs ++ [x]) where
  runs := by
    rw [List.forall_mem_append, List.forall_mem_singleton]
    exact ⟨h.runs, hx⟩
  number_lt t hm := by
    rcases Multiset.mem_cons.mp hm with rfl | hm
    · exact h.number_lt x.entry (Pool.mem_of_eq_cons ht)
    · exact h.number_lt t (Pool.mem_of_mem_others ht hm)
  numbers := by
    have := h.numbers
    rw [ht, Multiset.map_cons] at this
    rw [Multiset.map_cons]
    exact this
  timely l := hx.timely (by rw [hb]; exact h.timely l)
  generation_le y hy p hp := by
    rcases List.mem_append.mp hy with hy | hy
    · refine Nat.le_trans (h.generation_le y hy p hp) ?_
      rw [← hb]
      exact hx.generation_le _
    · rw [List.mem_singleton.mp hy] at hp
      exact Nat.le_of_eq (hx.asks_generation hp).2.1.symm
  rising := by
    rw [List.pairwise_append]
    refine ⟨h.rising, List.pairwise_singleton _ _, fun y hy z hz p r hp hr hl => ?_⟩
    rw [List.mem_singleton.mp hz] at hr
    have hle := h.generation_le y hy p hp
    rw [(hx.asks_generation hr).1, ← hl, hb]
    exact Nat.lt_succ_of_le hle
  asked t hm p hp := by
    rcases Multiset.mem_cons.mp hm with rfl | hm
    · exact ⟨x, List.mem_append_right _ (List.mem_singleton_self x), rfl, hx.asks_of_stop hp⟩
    · obtain ⟨y, hy, hn⟩ := h.asked t (Pool.mem_of_mem_others ht hm) p hp
      exact ⟨y, List.mem_append_left _ hy, hn⟩

/-- Every course keeps the order. -/
theorem course (h : p.Ordered xs) (hc : Course idle p ys q) : q.Ordered (xs ++ ys) := by
  induction hc with
  | nil => rw [List.append_nil]; exact h
  | start call _ _ ih => exact ih.start call
  | leave _ ht _ ih => exact ih.leave ht
  | act _ hx hb ht _ ih =>
    rw [← List.append_assoc]
    exact ih.act hx hb ht

/-- A pool without calls whose fields wait for nothing that is past is in order. -/
theorem of_threads_eq_zero (ht : q.threads = 0) (hf : ∀ l, (q.form.get l).Timely) : q.Ordered [] where
  runs x hx := absurd hx List.not_mem_nil
  number_lt t hm := by rw [ht] at hm; exact absurd hm (Multiset.notMem_zero t)
  numbers := by rw [ht]; exact Multiset.nodup_zero
  timely := hf
  generation_le x hx := absurd hx List.not_mem_nil
  rising := .nil
  asked t hm := by rw [ht] at hm; exact absurd hm (Multiset.notMem_zero t)

/-- In one section at most a load of a level and a generation begins to wait. -/
theorem eq_of_asks (h : q.Ordered xs) {x y : Section} (hx : x ∈ xs) (hy : y ∈ xs) {p r : Pending} (hp : x.Asks p)
    (hr : y.Asks r) (hl : p.load.level = r.load.level) (hg : p.generation = r.generation) : x = y := by
  obtain ⟨i, hi, rfl⟩ := List.mem_iff_getElem.mp hx
  obtain ⟨j, hj, rfl⟩ := List.mem_iff_getElem.mp hy
  rcases Nat.lt_trichotomy i j with hij | rfl | hij
  · have := List.pairwise_iff_getElem.mp h.rising i j hi hj hij p r hp hr hl
    omega
  · rfl
  · have := List.pairwise_iff_getElem.mp h.rising j i hj hi hij r p hr hp hl.symm
    omega

/-- Two calls do not wait for the reply to a load of one level and one generation. -/
theorem generation_ne (h : q.Ordered xs) {t u : Thread} {others : Multiset Thread} (ht : q.threads = t ::ₘ others)
    (hu : u ∈ others) {p r : Pending} (hp : t.activity = .waiting p) (hr : u.activity = .waiting r)
    (hl : p.load.level = r.load.level) : p.generation ≠ r.generation := by
  intro hg
  obtain ⟨x, hx, hxn, hxp⟩ := h.asked t (Pool.mem_of_eq_cons ht) p hp
  obtain ⟨y, hy, hyn, hyr⟩ := h.asked u (Pool.mem_of_mem_others ht hu) r hr
  have he := h.eq_of_asks hx hy hxp hyr hl hg
  have hn := h.numbers
  rw [ht, Multiset.map_cons, Multiset.nodup_cons] at hn
  refine hn.1 (Multiset.mem_map.mpr ⟨u, hu, ?_⟩)
  rw [← hyn, ← he, hxn]

end Pool.Ordered

end LinkedSelect
