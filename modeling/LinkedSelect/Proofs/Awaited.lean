import LinkedSelect.Proofs.Waiting

/-!
# Fields that wait are waited for

A field that is loading shows no options until a reply comes, so some call must wait for that reply.

* What a field waits for after a section has just begun to wait, or the field waited for it before and the section did
  not bring the reply (`Form.Attended.of_section`). So while no call is dropped a field that is loading has a call that
  waits for the same reply (`Session.Attended.after`).
* Of the loads that calls wait for, the one of the present generation is the one that the field waits for
  (`Course.loading_iff_current`); the others are of earlier generations.
* `Session.loading_iff_awaited`: a field is loading exactly if one call waits for a load of its present generation; one
  that waits for an earlier load does not count (`Session.awaited_not_loading`).
-/

namespace LinkedSelect

/-- Drops a waiting call. -/
def Event.drops : Event → Bool
  | .cancel _ => true
  | _ => false

/-- Every field that is loading waits for the reply to one of these loads. -/
def Form.Attended (f : Form) (ps : List Pending) : Prop :=
  ∀ l g, (f.get l).phase = .loading g → ∃ p ∈ ps, p.load.level = l ∧ p.generation = g

/-- Every section keeps the loads attended. -/
theorem Form.Attended.of_section {x : Section} {ps : List Pending} (hx : x.Runs)
    (h : x.before.Attended (x.start.pending?.toList ++ ps)) : x.after.Attended (x.stop.pending?.toList ++ ps) := by
  intro l g hg
  rcases hx.loading_inv hg with ⟨p, ha, hl, hgen⟩ | ⟨hbefore, hn⟩
  · refine ⟨p, List.mem_append_left _ ?_, hl, hgen⟩
    rw [ha.2]
    exact List.mem_singleton_self p
  · obtain ⟨p, hp, hl, hgen⟩ := h l g hbefore
    rcases List.mem_append.mp hp with hp | hp
    · -- the field would have taken the reply
      obtain ⟨reply, ha⟩ := hx.answers_of_waiting (Activity.mem_pending?.mp (Option.mem_toList.mp hp))
      exact absurd ⟨hl, hgen⟩ (hn p reply ha)
    · exact ⟨p, List.mem_append_right _ hp, hl, hgen⟩

/-! ## Runs -/

/-- Of the loads that calls wait for, the one of the present generation is the one that its field waits for. -/
theorem Course.loading_iff_current {idle : Activity → Prop} {p q : Pool} {xs : List Section} {t : Thread} {a : Pending}
    (hp : p.Ordered []) (hc : Course idle p xs q) (ht : t ∈ q.threads) (ha : t.activity = .waiting a) :
    (q.form.get a.load.level).phase = .loading a.generation ↔ a.generation = (q.form.get a.load.level).generation := by
  have ho := hp.course hc
  refine ⟨fun h => ho.timely _ _ h, fun h => ?_⟩
  obtain ⟨x, hx, hn, hxa⟩ := ho.asked t ht a ha
  obtain ⟨us, vs, rfl⟩ := List.append_of_mem hx
  obtain ⟨r, others, hus, hb, hruns, hthreads, _, hvs⟩ := hc.cut
  have hor := (hp.course hus).act hruns hb.symm hthreads
  obtain ⟨_, hgen, hphase⟩ := hruns.asks_generation hxa
  refine (Course.loading_iff hor hxa hphase hvs ht hn.symm ha).mpr fun y hy hren => ?_
  have hlt : (x.after.get a.load.level).generation < _ := hvs.generation_lt ⟨y, hy, hren⟩
  rw [hgen, h] at hlt
  exact Nat.lt_irrefl _ hlt

namespace Session

variable {σ : Type} {src : Source σ} {s t : Session σ}

/-- The loads that calls wait for. -/
def pendings (s : Session σ) : List Pending :=
  s.waiting.map (·.pending)

/-- The generations of the loads of a level that calls wait for. -/
def generations (s : Session σ) (l : Level) : List Nat :=
  (s.pendings.filter (·.load.level = l)).map (·.generation)

theorem attended_of_ran {gap : Option Call} {number : Nat} {call : Call} {a : Activity} {xs : List Section}
    (h : Ran src gap number call s a xs t) (hs : s.form.Attended (a.pending?.toList ++ s.pendings)) :
    t.form.Attended t.pendings := by
  induction h with
  | ends outcome => exact hs
  | holds hf =>
    intro l g hg
    obtain ⟨p, hp, hpl⟩ := hs l g hg
    refine ⟨p, ?_, hpl⟩
    rw [pendings, List.map_append]
    exact List.mem_append.mpr (List.mem_append.mp hp).symm
  | @answers gap number call s t p reply source xs hf _ ih =>
    have hx : Section.Runs ⟨number, call, s.form, .waiting p, some reply, (Activity.resume s.form p reply).1,
      (Activity.resume s.form p reply).2⟩ := .reply
    exact ih (hs.of_section hx)
  | @own gap number call s t a xs h _ ih =>
    have hx : Section.Runs ⟨number, call, s.form, a, none, (a.advance s.form).1, (a.advance s.form).2⟩ := .own h
    exact ih (hs.of_section hx)
  | gap _ _ ihg ihr => exact ihr (ihg hs)

/-- While no call is dropped, a field that is loading has a call that waits for the same reply. -/
theorem attended_of_handled {e : Event} {xs : List Section} (h : Handled src s e xs t) (he : e.drops = false)
    (hn : s.Numbered) (hs : s.form.Attended s.pendings) : t.form.Attended t.pendings := by
  cases h with
  | start h => exact attended_of_ran h hs
  | missing => exact hs
  | @release request reply gap w u _ xs h hr =>
    obtain ⟨rfl, hw, rfl⟩ := waiting_of_take? h
    have hx : (handSection { s with waiting := s.waiting.filter (·.request ≠ w.request) } w reply).Runs := .reply
    refine attended_of_ran hr (Form.Attended.of_section hx fun l g hg => ?_)
    obtain ⟨p, hp, hpl⟩ := hs l g hg
    refine ⟨p, ?_, hpl⟩
    obtain ⟨v, hv, rfl⟩ := List.mem_map.mp hp
    by_cases hvw : v.request = w.request
    · rw [eq_of_request_eq hn hv hw hvw]
      exact List.mem_cons_self
    · refine List.mem_cons_of_mem _ (List.mem_map_of_mem (List.mem_filter.mpr ⟨hv, ?_⟩))
      simpa using hvw
  | cancel => cases he

theorem Attended.after (src : Source σ) (hn : s.Numbered) (hs : s.form.Attended s.pendings) {events : List Event}
    (he : ∀ e ∈ events, e.drops = false) : (s.after src events).form.Attended (s.after src events).pendings := by
  induction events generalizing s with
  | nil => exact hs
  | cons e events ih =>
    rw [List.forall_mem_cons] at he
    exact ih (Numbered.of_handled (handled s e) hn) (attended_of_handled (handled s e) he.1 hn hs) he.2

theorem mem_generations {l : Level} {g : Nat} :
    g ∈ s.generations l ↔ ∃ w ∈ s.waiting, w.pending.load.level = l ∧ w.pending.generation = g := by
  simp [generations, pendings, and_assoc]

/-- Calls that wait for loads of one level wait for different generations. -/
theorem nodup_generations {xs : List Section} (ho : s.pool.Ordered xs) (l : Level) : (s.generations l).Nodup := by
  have hg : s.generations l =
      (s.waiting.filter (·.pending.load.level = l)).map (·.pending.generation) := by
    simp [generations, pendings, List.filter_map, Function.comp_def]
  rw [hg]
  refine ((nodup_numbers ho).of_map.filter _).map_on fun v hv w hw h => ?_
  obtain ⟨hv, hvl⟩ := List.mem_filter.mp hv
  obtain ⟨hw, hwl⟩ := List.mem_filter.mp hw
  exact waiting_eq ho hv hw ((of_decide_eq_true hvl).trans (of_decide_eq_true hwl).symm) h

/-- **A field is loading exactly if one call waits for a load of its present generation**, as long as no call is
dropped. The other loads that calls wait for are those that the field has moved on from: their generations differ, and
they are earlier than the present one. So nothing is loading once no call waits. The loads of a level begin in rising
generations. -/
theorem loading_iff_awaited (src : Source σ) (traffic : Traffic σ) (site area rack : Select) (endpoints : Endpoints)
    {events : List Event} (he : ∀ e ∈ events, e.drops = false) :
    let s := (fresh traffic site area rack endpoints).after src events
    (∀ l g, (s.form.get l).phase = .loading g ↔
      g = (s.form.get l).generation ∧ (s.generations l).count g = 1) ∧
    (∀ l, (s.generations l).Nodup ∧
      ∀ g ∈ s.generations l, (s.form.get l).phase ≠ .loading g → g < (s.form.get l).generation) ∧
    (s.waiting = [] → ∀ l g, (s.form.get l).phase ≠ .loading g) ∧
    ((fresh traffic site area rack endpoints).history src events).Pairwise fun x y =>
      ∀ p r, x.Asks p → y.Asks r → p.load.level = r.load.level → p.generation < r.generation := by
  intro s
  have hc := course_history src (fresh traffic site area rack endpoints) events
  have h₀ := fresh_ordered traffic site area rack endpoints
  have ho : s.pool.Ordered _ := h₀.course hc
  have hnew : (fresh traffic site area rack endpoints).form.Attended [] := by
    intro l g hg
    cases l <;> exact absurd hg (Field.phase_new _ _ _)
  have hattended : s.form.Attended s.pendings :=
    Attended.after src (fresh_numbered traffic site area rack endpoints) hnew he
  have hcurrent : ∀ w ∈ s.waiting, (s.form.get w.pending.load.level).phase = .loading w.pending.generation ↔
      w.pending.generation = (s.form.get w.pending.load.level).generation := fun w hw =>
    Course.loading_iff_current h₀ hc (thread_mem hw) rfl
  refine ⟨fun l g => ⟨fun hg => ⟨ho.timely l g hg, ?_⟩, fun h => ?_⟩,
    fun l => ⟨nodup_generations ho l, fun g hg hp => ?_⟩, fun hw l g hg => ?_, ho.rising⟩
  · obtain ⟨p, hp, hl, rfl⟩ := hattended l g hg
    obtain ⟨w, hw, rfl⟩ := List.mem_map.mp hp
    exact List.count_eq_one_of_mem (nodup_generations ho l) (mem_generations.mpr ⟨w, hw, hl, rfl⟩)
  · have hg : g ∈ s.generations l := List.count_pos_iff.mp (by rw [h.2]; exact Nat.one_pos)
    obtain ⟨w, hw, rfl, rfl⟩ := mem_generations.mp hg
    exact (hcurrent w hw).mpr h.1
  · obtain ⟨w, hw, rfl, rfl⟩ := mem_generations.mp hg
    obtain ⟨x, hx, _, hxa⟩ := asks_of_waiting ho hw
    exact Nat.lt_of_le_of_ne (ho.generation_le x hx _ hxa) (mt (hcurrent w hw).mpr hp)
  · obtain ⟨p, hp, _⟩ := hattended l g hg
    rw [pendings, hw] at hp
    cases hp

/-- A page on which the areas of a site are asked for, and then those of another site, before any reply. -/
def twiceAsked : List Event :=
  [.start .restore none, .start (.siteChanged "6") none, .start (.load .rack "13" false) none]

theorem twiceAsked_loading :
    let s₀ : Session Unit := fresh { source := () } ((Select.new "id_site").withValue "5") (.new "id_area")
      (.new "id_rack") ⟨some "/areas/", some "/racks/"⟩
    let s := s₀.after .holding twiceAsked
    s.form.area.phase = .loading 2 ∧ s.generations .area = [1, 2] ∧ (s.generations .area).count 2 = 1 ∧
      1 < s.form.area.generation := by
  intro s₀ s
  have hphase : s.form.area.phase = .loading 2 := by decide +kernel
  have hgen : s.generations .area = [1, 2] := by decide +kernel
  have he : ∀ e ∈ twiceAsked, e.drops = false := by decide
  obtain ⟨hiff, hothers, _⟩ := loading_iff_awaited .holding _ _ _ _ _ he
  have hold : (s.form.get .area).phase ≠ .loading 1 := by
    rw [show (s.form.get .area).phase = .loading 2 from hphase]
    decide
  have hmem : 1 ∈ s.generations .area := by
    rw [hgen]
    exact List.mem_cons_self
  exact ⟨hphase, hgen, ((hiff .area 2).mp hphase).2, (hothers .area).2 1 hmem hold⟩

/-- A call may wait for a load that its field has moved on from: on that page one call still waits for the first load of
the areas, and they are loading at the second. -/
theorem awaited_not_loading :
    ¬∀ (σ : Type) (src : Source σ) (traffic : Traffic σ) (site area rack : Select) (endpoints : Endpoints)
        (events : List Event), (∀ e ∈ events, e.drops = false) →
      let s := (fresh traffic site area rack endpoints).after src events
      ∀ l g, (s.form.get l).phase = .loading g ↔ (s.generations l).count g = 1 := by
  intro h
  let s : Session Unit := (fresh { source := () } ((Select.new "id_site").withValue "5") (.new "id_area")
    (.new "id_rack") ⟨some "/areas/", some "/racks/"⟩).after .holding twiceAsked
  have hphase : (s.form.get .area).phase = .loading 2 := by decide +kernel
  have hgen : s.generations .area = [1, 2] := by decide +kernel
  have hone : (s.form.get .area).phase = .loading 1 :=
    (h Unit .holding _ _ _ _ _ twiceAsked (by decide) .area 1).mpr (by rw [hgen]; rfl)
  rw [hphase] at hone
  cases hone

end Session

end LinkedSelect
