import LinkedSelect.Proofs.Superseding

/-!
# Calls that wait in a session

* The calls that wait can be told apart by the number of their request (`Session.eq_of_request_eq`), and by the level
  and the generation of their load (`Session.waiting_eq`).
* A call whose load has ended, and that goes on with no other, ends and leaves the form as it is
  (`Session.ran_returned_last`).
* A reply that comes too late changes nothing (`Session.ran_hand_stale`), and one after which its call goes on with no
  other load changes one field (`Session.ran_hand_last`).
-/

namespace LinkedSelect

namespace Session

variable {σ : Type} {src : Source σ}

/-- Requests have numbers of their own. -/
structure Numbered (s : Session σ) : Prop where
  request_lt : ∀ w ∈ s.waiting, w.request < s.requests.length
  nodup : (s.waiting.map (·.request)).Nodup

namespace Numbered

variable {s t : Session σ}

theorem of_ran {gap : Option Call} {number : Nat} {call : Call} {a : Activity} {xs : List Section}
    (h : Ran src gap number call s a xs t) : s.Numbered → t.Numbered := by
  induction h with
  | ends outcome => exact fun hn => ⟨hn.request_lt, hn.nodup⟩
  | @holds gap number call s p source hf =>
    refine fun hn => ⟨fun w hw => ?_, ?_⟩
    · rw [List.length_append]
      rcases List.mem_append.mp hw with hw | hw
      · exact Nat.lt_succ_of_lt (hn.request_lt w hw)
      · rw [List.mem_singleton.mp hw]
        exact Nat.lt_succ_self _
    · rw [List.map_append, List.nodup_append]
      refine ⟨hn.nodup, List.nodup_singleton _, fun a ha b hb => ?_⟩
      obtain ⟨w, hw, rfl⟩ := List.mem_map.mp ha
      rw [List.mem_singleton.mp hb]
      exact Nat.ne_of_lt (hn.request_lt w hw)
  | answers hf _ ih =>
    refine fun hn => ih ⟨fun w hw => ?_, hn.nodup⟩
    rw [List.length_append]
    exact Nat.lt_succ_of_lt (hn.request_lt w hw)
  | own _ _ ih => exact fun hn => ih ⟨hn.request_lt, hn.nodup⟩
  | gap _ _ ihg ihr => exact fun hn => ihr (ihg ⟨hn.request_lt, hn.nodup⟩)

theorem filter (h : s.Numbered) (keep : Waiting → Bool) :
    Numbered { s with waiting := s.waiting.filter keep } where
  request_lt w hw := h.request_lt w (List.mem_of_mem_filter hw)
  nodup := h.nodup.sublist (List.filter_sublist.map _)

theorem of_handled {e : Event} {xs : List Section} (h : Handled src s e xs t) (hn : s.Numbered) : t.Numbered := by
  cases h with
  | start h => exact of_ran h ⟨hn.request_lt, hn.nodup⟩
  | missing => exact hn
  | @release request reply gap w u _ xs h hr =>
    obtain ⟨rfl, _⟩ := waiting_of_take? h
    have ht := hn.filter (·.request ≠ request)
    exact of_ran hr ⟨ht.request_lt, ht.nodup⟩
  | cancel => exact hn.filter _

theorem after (src : Source σ) (h : s.Numbered) (events : List Event) : (s.after src events).Numbered := by
  induction events generalizing s with
  | nil => exact h
  | cons e events ih => exact ih (of_handled (handled s e) h)

end Numbered

theorem fresh_numbered (traffic : Traffic σ) (site area rack : Select) (endpoints : Endpoints) :
    (fresh traffic site area rack endpoints).Numbered :=
  ⟨fun _ hw => absurd hw List.not_mem_nil, List.nodup_nil⟩

section Waiting

variable {s : Session σ} {xs : List Section} {v w : Waiting}

theorem thread_mem (h : w ∈ s.waiting) : w.thread ∈ s.pool.threads :=
  Multiset.mem_add.mpr (Or.inr (Multiset.mem_coe.mpr (List.mem_map_of_mem h)))

/-- A call that waits has asked. -/
theorem asks_of_waiting (ho : s.pool.Ordered xs) (h : w ∈ s.waiting) :
    ∃ x ∈ xs, x.number = w.number ∧ x.Asks w.pending :=
  ho.asked w.thread (thread_mem h) w.pending rfl

/-- No call waits for sites. -/
theorem level_ne_site (ho : s.pool.Ordered xs) (hw : w ∈ s.waiting) : w.pending.load.level ≠ .site := by
  intro hl
  obtain ⟨x, hx, _, hxa⟩ := asks_of_waiting ho hw
  obtain ⟨_, _, hparent, _⟩ := (ho.runs x hx).asks_inv hxa
  rw [hl] at hparent
  cases hparent

/-- The waiting calls have numbers of their own. -/
theorem nodup_numbers (ho : s.pool.Ordered xs) : (s.waiting.map (·.number)).Nodup := by
  have := ho.numbers
  simpa [pool, poolWith, Waiting.thread, Function.comp_def] using this

/-- Calls that wait for the reply to a load of one level and one generation are the same. -/
theorem waiting_eq (ho : s.pool.Ordered xs) (hv : v ∈ s.waiting) (hw : w ∈ s.waiting)
    (hl : v.pending.load.level = w.pending.load.level) (hg : v.pending.generation = w.pending.generation) : v = w := by
  obtain ⟨x, hx, hxn, hxa⟩ := asks_of_waiting ho hv
  obtain ⟨y, hy, hyn, hya⟩ := asks_of_waiting ho hw
  have hxy : x = y := ho.eq_of_asks hx hy hxa hya hl hg
  exact List.inj_on_of_nodup_map (nodup_numbers ho) hv hw (by rw [← hxn, ← hyn, hxy])

/-- Among the waiting calls a request has one. -/
theorem eq_of_request_eq (hn : s.Numbered) (hv : v ∈ s.waiting) (hw : w ∈ s.waiting)
    (h : v.request = w.request) : v = w :=
  List.inj_on_of_nodup_map hn.nodup hv hw h

end Waiting

/-! ## A call goes on -/

section Run

variable {s t : Session σ} {number : Nat} {call : Call} {xs : List Section}

theorem ran_ended {outcome : Outcome} (h : Ran src none number call s (.ended outcome) xs t) :
    t.form = s.form ∧ t.waiting = s.waiting := by
  cases h with
  | ends => exact ⟨rfl, rfl⟩
  | own h => cases h

theorem ran_returned {load : Load} {outcome : Outcome}
    (h : Ran src none number call s (.returned load outcome) xs t) :
    ∃ ys, Ran src none number call s (Activity.goOn load outcome) ys t := by
  cases h with
  | own _ hr => exact ⟨_, hr⟩

/-- A call whose load goes on with no other ends. -/
theorem ran_returned_last {load : Load} {outcome : Outcome} (hn : load.next? outcome = none)
    (h : Ran src none number call s (.returned load outcome) xs t) : t.form = s.form ∧ t.waiting = s.waiting := by
  obtain ⟨ys, hr⟩ := ran_returned h
  rw [Activity.goOn, hn] at hr
  exact ran_ended hr

theorem requests_of_ran_returned_last {load : Load} {outcome : Outcome} (hn : load.next? outcome = none)
    (h : Ran src none number call s (.returned load outcome) xs t) : t.requests = s.requests := by
  obtain ⟨ys, hr⟩ := ran_returned h
  rw [Activity.goOn, hn] at hr
  cases hr with
  | ends => rfl
  | own h => cases h

end Run

/-! ## Releases -/

section Release

variable {s t u : Session σ} {i : Nat} {w : Waiting} {xs : List Section} {reply : Reply}

/-- A reply that the field does not wait for leaves the form as it is. -/
theorem ran_hand_stale (h : s.take? i = some (w, t))
    (hp : (s.form.get w.pending.load.level).phase ≠ .loading w.pending.generation)
    (hr : Ran src none w.number w.call (t.hand w reply).1 (t.hand w reply).2 xs u) :
    u.form = s.form ∧ u.waiting = t.waiting := by
  obtain ⟨rfl, _⟩ := waiting_of_take? h
  simp only [hand, Activity.resume_of_not_loading hp] at hr
  exact ran_returned_last (Load.next?_superseded _) hr

/-- A reply that the field waits for changes that field alone, if the call goes on with no other load. -/
theorem ran_hand_last (h : s.take? i = some (w, t))
    (hp : (s.form.get w.pending.load.level).phase = .loading w.pending.generation)
    (hn : w.pending.load.next? (Field.outcomeOf reply w.pending.wanted) = none)
    (hr : Ran src none w.number w.call (t.hand w reply).1 (t.hand w reply).2 xs u) :
    u.form = s.form.modify w.pending.load.level (·.resolve reply w.pending.wanted) ∧ u.waiting = t.waiting := by
  obtain ⟨rfl, _⟩ := waiting_of_take? h
  simp only [hand, Activity.resume_of_loading hp] at hr
  exact ran_returned_last hn hr

/-- A release takes a waiting call out of those that wait, hands it its reply, and runs it. -/
theorem ran_release (src : Source σ) (h : s.take? i = some (w, t)) (reply : Reply) :
    ∃ xs, Ran src none w.number w.call (t.hand w reply).1 (t.hand w reply).2 xs (s.release src i reply) := by
  simp only [release, h]
  exact ⟨_, ran_run ..⟩

theorem request_ne_of_take?_eq_none (h : s.take? i = none) : ∀ w ∈ s.waiting, w.request ≠ i := by
  have hf := Option.map_eq_none_iff.mp h
  exact fun w hw hi => List.find?_eq_none.mp hf w hw (by simpa using hi)

/-- A request that no call waits for cannot be answered. -/
theorem release_of_take?_eq_none (src : Source σ) (h : s.take? i = none) (reply : Reply) :
    s.release src i reply = s := by
  simp only [release, h]

/-- A reply that the field does not wait for leaves the form as it is. -/
theorem release_stale (src : Source σ) (h : s.take? i = some (w, t))
    (hp : (s.form.get w.pending.load.level).phase ≠ .loading w.pending.generation) (reply : Reply) :
    (s.release src i reply).form = s.form ∧
      (s.release src i reply).waiting = s.waiting.filter (·.request ≠ i) := by
  obtain ⟨xs, hr⟩ := ran_release src h reply
  obtain ⟨ht, _⟩ := waiting_of_take? h
  obtain ⟨hf, hw⟩ := ran_hand_stale h hp hr
  exact ⟨hf, by rw [hw, ht]⟩

/-- A reply that the field does not wait for brings about no request. -/
theorem requests_release_stale (src : Source σ) (h : s.take? i = some (w, t))
    (hp : (s.form.get w.pending.load.level).phase ≠ .loading w.pending.generation) (reply : Reply) :
    (s.release src i reply).requests = s.requests := by
  obtain ⟨xs, hr⟩ := ran_release src h reply
  obtain ⟨rfl, _⟩ := waiting_of_take? h
  simp only [hand, Activity.resume_of_not_loading hp] at hr
  exact (requests_of_ran_returned_last (Load.next?_superseded _) hr :)

/-- A reply that the field waits for changes that field alone, if the call goes on with no other load. -/
theorem release_last (src : Source σ) (h : s.take? i = some (w, t))
    (hp : (s.form.get w.pending.load.level).phase = .loading w.pending.generation)
    (hn : w.pending.load.next? (Field.outcomeOf reply w.pending.wanted) = none) :
    (s.release src i reply).form = s.form.modify w.pending.load.level (·.resolve reply w.pending.wanted) ∧
      (s.release src i reply).waiting = s.waiting.filter (·.request ≠ i) := by
  obtain ⟨xs, hr⟩ := ran_release src h reply
  obtain ⟨ht, _⟩ := waiting_of_take? h
  obtain ⟨hf, hw⟩ := ran_hand_last h hp hn hr
  exact ⟨hf, by rw [hw, ht]⟩

end Release

end Session

end LinkedSelect
