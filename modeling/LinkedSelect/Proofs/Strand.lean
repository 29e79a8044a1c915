import LinkedSelect.Proofs.Waiting

/-!
# The sections of one call

However the sections of calls are mixed, those of one call are a `Strand`: each begins where the one before has stopped,
and the last one stops where the call stands.

* `Course.strand` finds the strand of each call in a course. A call that is no longer under way has stopped where it
  could not go on by itself.
* `Session.ended_after`: the calls that have ended, and their results, are those of the sections that end a call.
* Between two events a call that was started waits or has ended, unless it was dropped (`Session.Traces.after`).
* `Session.strand_of_history` puts this together for a call of a session.
-/

namespace LinkedSelect

/-- The sections of one call, in order: each begins where the one before has stopped. The call stands at the given
activity after them. -/
inductive Strand (number : Nat) (call : Call) : List Section → Activity → Prop
  | nil : Strand number call [] (.entered call)
  | snoc {ys : List Section} {x : Section} (h : Strand number call ys x.start) (hx : x.Runs) (hn : x.number = number)
      (hc : x.call = call) : Strand number call (ys ++ [x]) x.stop

/-- Where a call stands while it is under way; one that is no longer under way stands where it has no next section. -/
def Pool.Stands (q : Pool) (number : Nat) (call : Call) (a : Activity) : Prop :=
  (∀ t ∈ q.threads, t.number = number → t.call = call ∧ t.activity = a) ∧
    ((∀ t ∈ q.threads, t.number ≠ number) → a.canAdvance = false)

namespace Course

variable {idle : Activity → Prop} {p q : Pool} {xs : List Section}

/-- The sections of a course belong to calls that were started. -/
theorem number_lt (hp : p.Ordered []) (hc : Course idle p xs q) : ∀ x ∈ xs, x.number < q.started := by
  induction hc with
  | nil => exact fun x hx => absurd hx List.not_mem_nil
  | start _ _ _ ih => exact fun x hx => Nat.lt_succ_of_lt (ih x hx)
  | leave _ _ _ ih => exact ih
  | @act zs q y others hc _ _ ht _ ih =>
    rw [List.forall_mem_append, List.forall_mem_singleton]
    exact ⟨ih, (hp.course hc).number_lt y.entry (Pool.mem_of_eq_cons ht)⟩

theorem started_le (hc : Course idle p xs q) : p.started ≤ q.started := by
  induction hc with
  | nil => exact Nat.le_refl _
  | start _ _ _ ih => exact Nat.le_succ_of_le ih
  | leave _ _ _ ih => exact ih
  | act _ _ _ _ _ ih => exact ih

/-- If no call that was started before is under way, the calls of a course have later numbers. -/
theorem le_number (hc : Course idle p xs q) (hp : ∀ t ∈ p.threads, p.started ≤ t.number) :
    (∀ x ∈ xs, p.started ≤ x.number) ∧ ∀ t ∈ q.threads, p.started ≤ t.number := by
  induction hc with
  | nil => exact ⟨fun x hx => absurd hx List.not_mem_nil, hp⟩
  | start _ hc _ ih =>
    refine ⟨ih.1, fun t ht => ?_⟩
    rcases Multiset.mem_cons.mp ht with rfl | ht
    · exact hc.started_le
    · exact ih.2 t ht
  | leave _ ht _ ih => exact ⟨ih.1, fun t hm => ih.2 t (Pool.mem_of_mem_rest ht hm)⟩
  | @act zs q y others _ _ _ ht _ ih =>
    have hy : p.started ≤ y.number := ih.2 y.entry (Pool.mem_of_eq_cons ht)
    rw [List.forall_mem_append, List.forall_mem_singleton]
    refine ⟨⟨ih.1, hy⟩, fun t hm => ?_⟩
    rcases Multiset.mem_cons.mp hm with rfl | hm
    · exact hy
    · exact ih.2 t (Pool.mem_of_mem_others ht hm)

/-- The sections of a call that was started in a course are a strand, and the call stands where that has come to. -/
theorem strand (hp : p.Ordered []) (hc : Course idle p xs q) {n : Nat} (hfirst : p.started ≤ n) :
    n < q.started → ∃ call a, Strand n call (xs.filter (·.number = n)) a ∧ q.Stands n call a := by
  induction hc with
  | nil => exact fun hn => absurd hn (Nat.not_lt.mpr hfirst)
  | @start zs q call hc _ ih =>
    intro hn
    have ho := hp.course hc
    rcases Nat.lt_succ_iff_lt_or_eq.mp hn with hlt | rfl
    · obtain ⟨call', a, hs, hstands, hgone⟩ := ih hlt
      refine ⟨call', a, hs, fun t ht htn => ?_, fun hno => hgone fun t ht => hno t (Multiset.mem_cons_of_mem ht)⟩
      rcases Multiset.mem_cons.mp ht with rfl | ht
      · exact absurd htn (Nat.ne_of_gt hlt)
      · exact hstands t ht htn
    · -- the call that starts has no sections yet
      have hnone : zs.filter (·.number = q.started) = [] := by
        refine List.filter_eq_nil_iff.mpr fun x hx he => ?_
        exact Nat.ne_of_lt (number_lt hp hc x hx) (of_decide_eq_true he)
      rw [hnone]
      refine ⟨call, _, .nil, fun t ht htn => ?_, fun hno => ?_⟩
      · rcases Multiset.mem_cons.mp ht with rfl | ht
        · exact ⟨rfl, rfl⟩
        · exact absurd htn (Nat.ne_of_lt (ho.number_lt t ht))
      · exact absurd rfl (hno _ (Multiset.mem_cons_self _ _))
  | @leave zs q gone others hc ht hg ih =>
    intro hn
    obtain ⟨call, a, hs, hstands, hgone⟩ := ih hn
    refine ⟨call, a, hs, fun t hm => hstands t (Pool.mem_of_mem_rest ht hm), fun hno => ?_⟩
    by_cases hmem : ∃ t ∈ gone, t.number = n
    · obtain ⟨t, htg, htn⟩ := hmem
      have htq : t ∈ q.threads := by
        rw [ht]
        exact Multiset.mem_add.mpr (Or.inl htg)
      rw [← (hstands t htq htn).2]
      exact hg t htg
    · refine hgone fun t hm htn => ?_
      rw [ht] at hm
      rcases Multiset.mem_add.mp hm with hm | hm
      · exact hmem ⟨t, hm, htn⟩
      · exact hno t hm htn
  | @act zs q y others hc hy hb ht _ ih =>
    intro hn
    have ho := hp.course hc
    have hother : ∀ t ∈ others, t.number ≠ y.number := by
      have hnodup := ho.numbers
      rw [ht, Multiset.map_cons, Multiset.nodup_cons] at hnodup
      exact fun t hm htn => hnodup.1 (Multiset.mem_map.mpr ⟨t, hm, htn⟩)
    obtain ⟨call, a, hs, hstands, hgone⟩ := ih hn
    by_cases hyn : y.number = n
    · obtain ⟨hcall, hact⟩ := hstands y.entry (Pool.mem_of_eq_cons ht) hyn
      subst hact
      refine ⟨call, y.stop, ?_, fun t hm htn => ?_, fun hno => ?_⟩
      · rw [List.filter_append, List.filter_cons_of_pos (by simpa using hyn), List.filter_nil]
        exact .snoc hs hy hyn hcall
      · rcases Multiset.mem_cons.mp hm with rfl | hm
        · exact ⟨hcall, rfl⟩
        · exact absurd (htn.trans hyn.symm) (hother t hm)
      · exact absurd hyn (hno y.exit (Multiset.mem_cons_self _ _))
    · refine ⟨call, a, ?_, fun t hm htn => ?_, fun hno => hgone fun t hm htn => ?_⟩
      · rw [List.filter_append, List.filter_cons_of_neg (by simpa using hyn), List.filter_nil, List.append_nil]
        exact hs
      · rcases Multiset.mem_cons.mp hm with rfl | hm
        · exact absurd htn hyn
        · exact hstands t (Pool.mem_of_mem_others ht hm) htn
      · rw [ht] at hm
        rcases Multiset.mem_cons.mp hm with rfl | hm
        · exact hyn htn
        · exact hno t (Multiset.mem_cons_of_mem hm) htn

end Course

/-! ## Calls that have ended -/

/-- The number and the result of a call that has ended. -/
def Activity.ending? (number : Nat) (call : Call) : Activity → Option (Nat × Option Outcome)
  | .ended outcome => some (number, call.result outcome)
  | _ => none

/-- The number and the result of the call that ends in a section. -/
def Section.ending? (x : Section) : Option (Nat × Option Outcome) :=
  x.stop.ending? x.number x.call

/-- The results of one call are those of its sections. -/
theorem Section.filter_filterMap_ending? (xs : List Section) (n : Nat) :
    (xs.filterMap ending?).filter (·.1 = n) = (xs.filter (·.number = n)).filterMap ending? := by
  rw [List.filter_filterMap, List.filterMap_filter]
  refine congrArg (List.filterMap · xs) (funext fun x => ?_)
  cases hs : x.ending? with
  | none => simp
  | some e =>
    have he : e.1 = x.number := by
      cases ha : x.stop <;> rw [ending?, ha] at hs <;> cases hs
      rfl
    by_cases hn : x.number = n <;> simp [he, hn]

/-- A call that goes on from here has not ended. -/
theorem Section.Runs.ending?_start {x : Section} (h : x.Runs) : x.start.ending? x.number x.call = none := by
  cases h with
  | own ha =>
    rename_i a
    cases a <;> first | rfl | cases ha
  | reply => rfl

/-- A call ends once, and then it stands at its end. -/
theorem Strand.endings {n : Nat} {call : Call} {ys : List Section} {a : Activity} (h : Strand n call ys a) :
    ys.filterMap Section.ending? = (a.ending? n call).toList := by
  induction h with
  | nil => rfl
  | @snoc ys x h hx hn hc ih =>
    have hstart := hx.ending?_start
    rw [hn, hc] at hstart
    rw [List.filterMap_append, ih, hstart, List.filterMap_cons, Section.ending?, hn, hc]
    cases x.stop.ending? n call <;> rfl

namespace Session

variable {σ : Type} {src : Source σ} {s t : Session σ}

theorem ended_of_ran {gap : Option Call} {number : Nat} {call : Call} {a : Activity} {xs : List Section}
    (h : Ran src gap number call s a xs t) :
    t.ended = s.ended ++ (a.ending? number call).toList ++ xs.filterMap Section.ending? := by
  induction h with
  | ends outcome => simp [Activity.ending?]
  | holds hf => simp [Activity.ending?]
  | answers hf _ ih => rw [ih]; simp [Activity.ending?, Section.ending?, List.filterMap_cons, Activity.resume]
  | @own gap number call s t a xs h _ ih =>
    have ha : a.ending? number call = none := by cases a <;> first | rfl | cases h
    rw [ih, ha, List.filterMap_cons]
    simp only [Section.ending?]
    cases ((a.advance s.form).2.ending? number call) <;> simp
  | gap _ _ ihg ihr => rw [ihr, ihg]; simp [Activity.ending?]

theorem ended_of_handled {e : Event} {xs : List Section} (h : Handled src s e xs t) :
    t.ended = s.ended ++ xs.filterMap Section.ending? := by
  cases h with
  | start h => rw [ended_of_ran h]; simp [Activity.ending?]
  | missing => simp
  | release h hr =>
    obtain ⟨rfl, -⟩ := waiting_of_take? h
    rw [ended_of_ran hr, List.filterMap_cons_none rfl]
    simp [hand, Activity.ending?, Activity.resume]
  | cancel => simp [Session.cancel]

variable (src) in
/-- The calls that have ended are those of the sections that end a call. -/
theorem ended_after (s : Session σ) (events : List Event) :
    (s.after src events).ended = s.ended ++ (s.history src events).filterMap Section.ending? := by
  induction events generalizing s with
  | nil => simp [after, history]
  | cons e events ih =>
    have hi := ih (s.handle src e).1
    rw [ended_of_handled (handled s e), List.append_assoc, ← List.filterMap_append] at hi
    exact hi

/-- A call waits, or it has ended in one of these sections. -/
def Traces (s : Session σ) (xs : List Section) (n : Nat) : Prop :=
  (∃ w ∈ s.waiting, w.number = n) ∨ ∃ x ∈ xs, x.number = n ∧ ∃ o, x.stop = .ended o

theorem Traces.mono {us vs : List Section} {n : Nat} (h : s.Traces us n) (hw : ∀ w ∈ s.waiting, w ∈ t.waiting)
    (hx : us ⊆ vs) : t.Traces vs n := by
  rcases h with ⟨w, hws, hn⟩ | ⟨x, hxs, hn⟩
  · exact Or.inl ⟨w, hw w hws, hn⟩
  · exact Or.inr ⟨x, hx hxs, hn⟩

/-- A section more does not take a trace away. -/
theorem Traces.cons {us xs : List Section} {x : Section} {n : Nat} (h : s.Traces (us ++ xs) n) :
    s.Traces (us ++ x :: xs) n := by
  refine h.mono (fun w hw => hw) (List.append_subset_of_subset_of_subset (List.subset_append_left _ _) ?_)
  exact fun y hy => List.mem_append_right _ (List.mem_cons_of_mem _ hy)

/-- A call that runs waits or has ended then, and so do the others that did before, and one that was started in the
gap. -/
theorem traces_of_ran {gap : Option Call} {number n : Nat} {call : Call} {a : Activity} {us xs : List Section}
    (h : Ran src gap number call s a xs t) (hs : n < s.started → n ≠ number → s.Traces us n) (hn : n < t.started) :
    t.Traces (us ++ xs) n ∨ n = number ∧ ∃ o, a = .ended o := by
  induction h generalizing us with
  | @ends gap number call s outcome =>
    by_cases hne : n = number
    · exact Or.inr ⟨hne, outcome, rfl⟩
    · exact Or.inl ((hs hn hne).mono (fun w hw => hw) (List.subset_append_left _ _))
  | @holds gap number call s p source hf =>
    by_cases hne : n = number
    · exact Or.inl (Or.inl ⟨⟨number, call, s.requests.length, p⟩, List.mem_append_right _ (List.mem_singleton_self _),
        hne.symm⟩)
    · exact Or.inl ((hs hn hne).mono (fun w hw => List.mem_append_left _ hw) (List.subset_append_left _ _))
  | answers hf _ ih =>
    rcases ih hs hn with h | ⟨-, o, ho⟩
    · exact Or.inl h.cons
    · cases ho
  | own ha _ ih =>
    left
    rcases ih hs hn with h | ⟨rfl, o, ho⟩
    · exact h.cons
    · exact Or.inr ⟨_, List.mem_append_right _ List.mem_cons_self, rfl, o, ho⟩
  | @gap c number call s t u load outcome xs ys _ _ ihg ihr =>
    rw [← List.append_assoc]
    refine ihr (fun hlt hne => ?_) hn
    rcases ihg (fun hlt' hne' => (hs (Nat.lt_of_le_of_ne (Nat.le_of_lt_succ hlt') hne') hne).mono (fun w hw => hw)
      (List.Subset.refl _)) hlt with h | ⟨-, o, ho⟩
    · exact h
    · cases ho

/-- No event but its own dropping keeps a call from waiting or having ended. -/
theorem traces_of_handled {e : Event} {n : Nat} {us xs : List Section} (h : Handled src s e xs t) (hnum : s.Numbered)
    (he : e ≠ .cancel n) (hs : n < s.started → s.Traces us n) (hn : n < t.started) : t.Traces (us ++ xs) n := by
  cases h with
  | start h =>
    have hothers : n < s.started + 1 → n ≠ s.started → Traces { s with started := s.started + 1 } us n :=
      fun hlt hne => (hs (Nat.lt_of_le_of_ne (Nat.le_of_lt_succ hlt) hne)).mono (fun w hw => hw) (List.Subset.refl _)
    rcases traces_of_ran h hothers hn with h | ⟨-, o, ho⟩
    · exact h
    · cases ho
  | missing => exact (hs hn).mono (fun w hw => hw) (List.subset_append_left _ _)
  | @release request reply gap w u _ xs h hr =>
    obtain ⟨rfl, hw, rfl⟩ := waiting_of_take? h
    have hothers : n < s.started → n ≠ w.number →
        Traces { s with waiting := s.waiting.filter (·.request ≠ w.request) } us n := by
      intro hlt hne
      rcases hs hlt with ⟨v, hv, hvn⟩ | hended
      · refine Or.inl ⟨v, List.mem_filter.mpr ⟨hv, ?_⟩, hvn⟩
        rw [decide_eq_true_eq]
        intro hreq
        rw [eq_of_request_eq hnum hv hw hreq] at hvn
        exact hne hvn.symm
      · exact Or.inr hended
    rcases traces_of_ran hr hothers hn with h | ⟨-, o, ho⟩
    · exact h.cons
    · cases ho
  | @cancel number =>
    rcases hs hn with ⟨w, hw, hwn⟩ | hended
    · refine Or.inl ⟨w, List.mem_filter.mpr ⟨hw, ?_⟩, hwn⟩
      rw [decide_eq_true_eq]
      exact fun hc => he (by rw [← hwn, hc])
    · exact Or.inr (by simpa using hended)

/-- Between two events a call that was started waits or has ended, unless it was dropped. -/
theorem Traces.after (src : Source σ) {n : Nat} (us : List Section) (hnum : s.Numbered)
    (hs : n < s.started → s.Traces us n) {events : List Event} (he : Event.cancel n ∉ events) :
    n < (s.after src events).started → (s.after src events).Traces (us ++ s.history src events) n := by
  induction events generalizing s us with
  | nil => exact fun hn => (hs hn).mono (fun w hw => hw) (List.subset_append_left _ _)
  | cons e events ih =>
    rw [List.mem_cons, not_or] at he
    have hh : Handled src s e _ _ := handled s e
    have := ih _ (hnum.of_handled hh) (traces_of_handled hh hnum (Ne.symm he.1) hs) he.2
    rwa [List.append_assoc] at this

/-- The calls under way between two events are those that wait. -/
theorem exists_waiting_of_mem_pool {u : Thread} (h : u ∈ s.pool.threads) : ∃ w ∈ s.waiting, w.thread = u := by
  simpa [pool, poolWith] using h

/-- Between two events a call waits, or it is no longer under way. -/
theorem canAdvance_of_stands {n : Nat} {call : Call} {a : Activity} (h : s.pool.Stands n call a) :
    a.canAdvance = false := by
  by_cases hw : ∃ t ∈ s.pool.threads, t.number = n
  · obtain ⟨t, ht, hn⟩ := hw
    obtain ⟨w, -, rfl⟩ := exists_waiting_of_mem_pool ht
    rw [← (h.1 _ ht hn).2]
    rfl
  · exact h.2 fun t ht hn => hw ⟨t, ht, hn⟩

/-- **What a session does for one of its calls is a strand.** The call waits while it is among those that wait. When it
is not, it has ended, unless it was dropped. Its results are none or one: that with which its sections end. -/
theorem strand_of_history (src : Source σ) (traffic : Traffic σ) (site area rack : Select) (endpoints : Endpoints)
    (events : List Event) {x : Section} (hx : x ∈ (fresh traffic site area rack endpoints).history src events) :
    let s := (fresh traffic site area rack endpoints).after src events
    let xs := (fresh traffic site area rack endpoints).history src events
    ∃ call a new, Strand x.number call (xs.filter (·.number = x.number)) a ∧ a.canAdvance = false ∧
      ((∃ w ∈ s.waiting, w.number = x.number) → ∃ p, a = .waiting p) ∧
      ((∀ w ∈ s.waiting, w.number ≠ x.number) → .cancel x.number ∉ events → ∃ o, a = .ended o) ∧
      s.ended = traffic.ended ++ new ∧ new.filter (·.1 = x.number) = (a.ending? x.number call).toList := by
  intro s xs
  have ho := fresh_ordered traffic site area rack endpoints
  have hc : Course _ _ xs s.pool := course_history src (fresh traffic site area rack endpoints) events
  have hle : traffic.started ≤ x.number := (hc.le_number fun t ht => absurd ht (Multiset.notMem_zero t)).1 x hx
  have hlt : x.number < s.started := hc.number_lt ho x hx
  obtain ⟨call, a, hstrand, hstands⟩ := hc.strand ho hle hlt
  have hresult := (Section.filter_filterMap_ending? xs x.number).trans hstrand.endings
  refine ⟨call, a, _, hstrand, canAdvance_of_stands hstands, ?_, fun hno hcancel => ?_, ended_after src _ events,
    hresult⟩
  · rintro ⟨w, hw, hwn⟩
    exact ⟨w.pending, (hstands.1 w.thread (thread_mem hw) hwn).2.symm⟩
  · -- the section in which the call has ended is one of its strand
    have htraces := Traces.after src [] (fresh_numbered traffic site area rack endpoints)
      (fun hlt => absurd hlt (Nat.not_lt.mpr hle)) hcancel hlt
    rcases htraces with ⟨w, hw, hwn⟩ | ⟨y, hy, hyn, o, hyo⟩
    · exact absurd hwn (hno w hw)
    · have hy : y ∈ xs.filter (·.number = x.number) := List.mem_filter.mpr ⟨hy, decide_eq_true hyn⟩
      have hend : (y.number, y.call.result o) ∈ (xs.filter (·.number = x.number)).filterMap Section.ending? :=
        List.mem_filterMap.mpr ⟨y, hy, by rw [Section.ending?, hyo]; rfl⟩
      rw [hstrand.endings] at hend
      cases a with
      | ended o => exact ⟨o, rfl⟩
      | _ => cases hend

end Session

end LinkedSelect
