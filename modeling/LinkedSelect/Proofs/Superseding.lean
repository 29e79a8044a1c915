import LinkedSelect.Proofs.Generation

/-!
# Which replies are applied

* Since a load began to wait, its field waits for it exactly if no other load of the field has begun and the field was
  not disabled (`Course.loading_iff`). The proof is by induction on the course: a section that begins a load or
  disables the field moves it to a later generation, any other section leaves the generation alone, and a reply that
  is applied meanwhile would belong to a load with the same generation, which there is not.
* A call whose load was superseded begins no further load (`Course.no_load_of_superseded`).
* `Session.reply_applies_iff`: a reply is applied exactly if its load is still the last one of its field. If it is not
  applied, nothing changes; if it is, no reply to an earlier load is applied any more.
-/

namespace LinkedSelect

variable {idle : Activity → Prop}

namespace Course

/-- A course around one of its sections. -/
theorem cut {p r : Pool} {xs ys : List Section} {x : Section} (h : Course idle p (xs ++ x :: ys) r) :
    ∃ q others, Course idle p xs q ∧ q.form = x.before ∧ x.Runs ∧ q.threads = x.entry ::ₘ others ∧
      (∀ t ∈ others, idle t.activity) ∧
      Course idle { q with form := x.after, threads := x.exit ::ₘ others } ys r := by
  obtain ⟨m, h₁, h₂⟩ := h.split
  obtain ⟨q, others, hb, hx, ht, hi, hq, h₃⟩ := h₂.cons_inv
  have h₁ := h₁.trans hq
  rw [List.append_nil] at h₁
  exact ⟨q, others, h₁, hb, hx, ht, hi, h₃⟩

theorem generation_le {p q : Pool} {xs : List Section} (h : Course idle p xs q) (l : Level) :
    (p.form.get l).generation ≤ (q.form.get l).generation := by
  induction h with
  | nil => exact Nat.le_refl _
  | start _ _ _ ih => exact ih
  | leave _ _ _ ih => exact ih
  | act _ hx hb _ _ ih =>
    rw [← hb] at ih
    exact Nat.le_trans ih (hx.generation_le l)

/-- A level that was loaded or disabled in some section is in a later generation. -/
theorem generation_lt {p q : Pool} {xs : List Section} (h : Course idle p xs q) {l : Level}
    (hr : ∃ x ∈ xs, x.Renews l) : (p.form.get l).generation < (q.form.get l).generation := by
  obtain ⟨x, hx, hr⟩ := hr
  obtain ⟨us, vs, rfl⟩ := List.append_of_mem hx
  obtain ⟨r, others, hus, hb, hruns, _, _, hvs⟩ := h.cut
  calc (p.form.get l).generation
    _ ≤ (x.before.get l).generation := hb ▸ hus.generation_le l
    _ < (x.after.get l).generation := hruns.generation_lt hr
    _ ≤ (q.form.get l).generation := hvs.generation_le l

/-- Since a load began to wait, its field waits for it exactly if no other load of the field has begun and the field
was not disabled. -/
theorem loading_iff {p q : Pool} {xs ys : List Section} {x : Section} {a : Pending} (hp : p.Ordered (xs ++ [x]))
    (ha : x.Asks a) (hl : (p.form.get a.load.level).phase = .loading a.generation) (hc : Course idle p ys q)
    {t : Thread} (ht : t ∈ q.threads) (hn : t.number = x.number) (hw : t.activity = .waiting a) :
    (q.form.get a.load.level).phase = .loading a.generation ↔ ∀ y ∈ ys, ¬y.Renews a.load.level := by
  induction hc with
  | nil => exact ⟨fun _ y hy => absurd hy List.not_mem_nil, fun _ => hl⟩
  | start call _ _ ih =>
    rcases Multiset.mem_cons.mp ht with rfl | ht
    · cases hw
    · exact ih ht
  | leave _ hg _ ih => exact ih (Pool.mem_of_mem_rest hg ht)
  | @act zs q y others hc hy hb hq _ ih =>
    have ho := hp.course hc
    have hle : a.generation ≤ (y.before.get a.load.level).generation := by
      rw [hb]
      exact ho.generation_le x (by simp) a ha
    rcases Multiset.mem_cons.mp ht with rfl | ht
    · -- the call cannot begin to wait again in this generation
      have hay : y.Asks a := hy.asks_of_stop hw
      have := (hy.asks_generation hay).1
      omega
    · have hih := ih (Pool.mem_of_mem_others hq ht)
      rw [List.forall_mem_append, List.forall_mem_singleton, ← hih, ← hb]
      rcases hy.own_or_answers with hr | ⟨r, reply, hr⟩
      · obtain ⟨_, hf, _⟩ := hy.after_eq hr
        by_cases hren : y.Renews a.load.level
        · refine ⟨fun hph => ?_, fun h => absurd hren h.2⟩
          have hlt := Form.generation_lt_replay y.before hren
          rw [← hf] at hlt
          have htimely : (y.after.get a.load.level).Timely := hy.timely (by rw [hb]; exact ho.timely _)
          have := htimely _ hph
          omega
        · rw [hf, (Form.replay_of_not_renews y.before hren).2]
          exact ⟨fun h => ⟨h, hren⟩, fun h => h.1⟩
      · have hren := hr.not_renews a.load.level
        rcases hy.get_of_answers hr a.load.level with he | ⟨hlev, hph, he⟩
        · rw [he]
          exact ⟨fun h => ⟨h, hren⟩, fun h => h.1⟩
        · have hne := ho.generation_ne hq ht hr.1 hw hlev.symm
          refine ⟨fun h => ?_, fun h => ?_⟩
          · rw [he] at h
            cases h
          · rw [hph] at h
            exact absurd (Phase.loading.inj h.1) hne

/-- A call whose load was superseded, or that has ended, begins no load any more. -/
theorem no_load_of_superseded {p q : Pool} {ys : List Section} {n : Nat} (load : Load) (hn : n < p.started)
    (hp : ∀ t ∈ p.threads, t.number = n → t.activity = .returned load .superseded ∨ ∃ o, t.activity = .ended o)
    (hc : Course idle p ys q) :
    (∀ y ∈ ys, y.number = n → ∀ l, y.start ≠ .ready l) ∧ n < q.started ∧
      ∀ t ∈ q.threads, t.number = n → t.activity = .returned load .superseded ∨ ∃ o, t.activity = .ended o := by
  induction hc with
  | nil => exact ⟨fun y hy => absurd hy List.not_mem_nil, hn, hp⟩
  | start call _ _ ih =>
    obtain ⟨h₁, h₂, h₃⟩ := ih
    refine ⟨h₁, Nat.lt_succ_of_lt h₂, fun t ht htn => ?_⟩
    rcases Multiset.mem_cons.mp ht with rfl | ht
    · exact absurd htn (Nat.ne_of_gt h₂)
    · exact h₃ t ht htn
  | leave _ hg _ ih =>
    obtain ⟨h₁, h₂, h₃⟩ := ih
    exact ⟨h₁, h₂, fun t ht => h₃ t (Pool.mem_of_mem_rest hg ht)⟩
  | @act zs q y others _ hy hb hq _ ih =>
    obtain ⟨h₁, h₂, h₃⟩ := ih
    have hstart : y.number = n → y.start = .returned load .superseded ∨ ∃ o, y.start = .ended o :=
      h₃ y.entry (Pool.mem_of_eq_cons hq)
    refine ⟨?_, h₂, fun t ht htn => ?_⟩
    · rw [List.forall_mem_append, List.forall_mem_singleton]
      refine ⟨h₁, fun hyn l hl => ?_⟩
      rcases hstart hyn with hs | ⟨o, hs⟩ <;> rw [show y.start = .ready l from hl] at hs <;> cases hs
    · rcases Multiset.mem_cons.mp ht with rfl | ht
      · right
        cases hy with
        | reply => rcases hstart htn with hs | ⟨o, hs⟩ <;> cases hs
        | own hadv =>
          rcases hstart htn with hs | ⟨o, hs⟩
          · cases hs
            exact ⟨_, rfl⟩
          · cases hs
            cases hadv
      · exact h₃ t (Pool.mem_of_mem_others hq ht) htn

end Course

/-- A new field waits for nothing. -/
theorem Field.phase_new (select : Select) (endpoint : Option String) (g : Nat) :
    (Field.new select endpoint).phase ≠ .loading g := by
  simp only [Field.new]
  split <;> exact fun h => by cases h

namespace Session

variable {σ : Type}

theorem fresh_ordered (traffic : Traffic σ) (site area rack : Select) (endpoints : Endpoints) :
    (fresh traffic site area rack endpoints).pool.Ordered [] := by
  refine .of_threads_eq_zero rfl fun l g hg => ?_
  cases l with
  | site => exact absurd hg (Field.phase_new _ _ g)
  | area => exact absurd hg (Field.phase_new _ _ g)
  | rack => exact absurd hg (Field.phase_new _ _ g)

/-- **A reply is applied exactly if, since its load began, no other load of the field has begun and the field was not
disabled.** If it is not applied, the load ends superseded, the call begins no further load, and the form stays as it
is. If it is applied, the field shows the placeholder and the choices of the reply, and no reply to an earlier load of
the field is applied afterwards. -/
theorem reply_applies_iff (src : Source σ) (traffic : Traffic σ) (site area rack : Select) (endpoints : Endpoints)
    (events : List Event) {xs ys zs : List Section} {a b : Section} {p : Pending} {reply : Reply}
    (h : (fresh traffic site area rack endpoints).history src events = xs ++ a :: (ys ++ b :: zs))
    (ha : a.Asks p) (hb : b.Answers p reply) (hn : b.number = a.number) :
    (b.Applies ↔ ∀ y ∈ ys, ¬y.Renews p.load.level) ∧
      (¬b.Applies → b.stop = .returned p.load .superseded ∧ b.after = b.before ∧
        ∀ z ∈ zs, z.number = b.number → ∀ load, z.start ≠ .ready load) ∧
      (b.Applies →
        (b.after.get p.load.level).select.entries = .placeholder ::
          (match reply with | .ok choices => choices.map .ofChoice | .error _ => []) ∧
        ∀ z ∈ zs, ∀ r reply', z.Answers r reply' → r.load.level = p.load.level →
          (∃ x ∈ xs, x.number = z.number ∧ x.Asks r) → ¬z.Applies) := by
  have hc := course_history src (fresh traffic site area rack endpoints) events
  rw [h] at hc
  obtain ⟨q₁, others₁, hc₁, hf₁, hra, ht₁, _, hc₂⟩ := hc.cut
  obtain ⟨q₂, others₂, hc₃, hf₂, hrb, ht₂, _, hc₄⟩ := hc₂.cut
  have ho₁ := ((fresh_ordered traffic site area rack endpoints).course hc₁).act hra hf₁.symm ht₁
  have ho₂ := ho₁.course hc₃
  have ho₃ := ho₂.act hrb hf₂.symm ht₂
  have hloading := Course.loading_iff ho₁ ha (hra.asks_generation ha).2.2 hc₃
    (t := b.entry) (Pool.mem_of_eq_cons ht₂) hn hb.1
  have happlies := hrb.applies_iff hb
  rw [hf₂] at hloading
  refine ⟨happlies.trans hloading, fun hnot => ?_, fun hyes => ⟨?_, ?_⟩⟩
  · have he := hrb.answers_inv hb
    rw [Activity.resume_of_not_loading (mt happlies.mpr hnot)] at he
    obtain ⟨hafter, hstop⟩ := Prod.mk.inj he
    refine ⟨hstop, hafter, (Course.no_load_of_superseded p.load ?_ ?_ hc₄).1⟩
    · exact ho₃.number_lt b.exit (Multiset.mem_cons_self _ _)
    · intro t ht htn
      rcases Multiset.mem_cons.mp ht with rfl | ht
      · exact Or.inl hstop
      · have hnodup := ho₃.numbers
        rw [Multiset.map_cons, Multiset.nodup_cons] at hnodup
        exact absurd (Multiset.mem_map.mpr ⟨t, ht, htn⟩) hnodup.1
  · have he := hrb.answers_inv hb
    rw [Activity.resume_of_loading (happlies.mp hyes)] at he
    rw [(Prod.mk.inj he).1, Form.get_modify, if_pos rfl]
    cases reply <;> rfl
  · -- the earlier load has a lower generation than the field ever has again
    rintro z hz r reply' hr hlev ⟨x, hx, _, hxr⟩ hz'
    obtain ⟨zs₁, zs₂, rfl⟩ := List.append_of_mem hz
    obtain ⟨q₃, others₃, hc₅, hf₃, hrz, ht₃, _, _⟩ := hc₄.cut
    have ho₄ := ho₃.course hc₅
    have hph := (hrz.applies_iff hr).mp hz'
    rw [← hf₃] at hph
    have hgen := ho₄.timely _ _ hph
    have hle := ho₄.generation_le a (by simp) p ha
    have hrise := ho₁.rising
    simp only [List.nil_append, List.pairwise_append, List.mem_singleton, forall_eq] at hrise
    have hlt := hrise.2.2 x hx r p hxr ha hlev
    rw [hlev] at hgen
    omega

/-- A page with a site: the areas of the site are asked for, then another site is picked, and at last the areas of the
first one come. -/
def overtaken : List Section :=
  (fresh { source := () } ((Select.new "id_site").withValue "5") (.new "id_area") (.new "id_rack")
    ⟨some "/areas/", some "/racks/"⟩).history .holding
      [.start .restore none, .start (.siteChanged "6") none, .release 0 (.ok [⟨.number 12, "A"⟩]) none]

theorem overtaken_reply_superseded :
    ∃ a ∈ overtaken, ∃ b ∈ overtaken, ∃ p reply, a.Asks p ∧ b.Answers p reply ∧ b.number = a.number ∧
      b.stop = .returned p.load .superseded ∧ b.after = b.before := by
  let p : Pending := ⟨⟨.area, "5", true, none⟩, ⟨"/areas/", "site", "5"⟩, none, 1⟩
  have hlen : overtaken.length = 6 := by decide +kernel
  have h : overtaken = overtaken.take 1 ++ overtaken[1] ::
      ((overtaken.drop 2).take 2 ++ overtaken[4] :: overtaken.drop 5) := by decide +kernel +revert
  have ha : overtaken[1].Asks p := by decide +kernel +revert
  have hb : overtaken[4].Answers p (.ok [⟨.number 12, "A"⟩]) := by decide +kernel +revert
  have hn : overtaken[4].number = overtaken[1].number := by decide +kernel +revert
  have hr : ∃ y ∈ (overtaken.drop 2).take 2, y.Renews p.load.level := by decide +kernel
  obtain ⟨hiff, hnot, _⟩ := reply_applies_iff .holding _ _ _ _ _ _ h ha hb hn
  obtain ⟨y, hy, hren⟩ := hr
  obtain ⟨hs, hf, _⟩ := hnot fun happ => hiff.mp happ y hy hren
  exact ⟨_, List.getElem_mem _, _, List.getElem_mem _, p, _, ha, hb, hn, hs, hf⟩

end Session

end LinkedSelect
