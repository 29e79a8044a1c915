import Mathlib.Data.Multiset.AddSub
import Mathlib.Data.Multiset.Filter
import LinkedSelect.Proofs.History

/-!
# Calls under way as one system

A `Pool` is a form and the calls under way over it. `Course idle p xs q` says that `p` may become `q` by the sections
`xs`: calls start and leave, and one call at a time runs a section while the others stand where `idle` allows it.

* A course can be cut between any two of its sections (`Course.split`) and continued (`Course.trans`).
* What a session does is a course in which the calls that do not run wait for a reply or stand behind a load that has
  ended (`Session.course_history`).
-/

namespace LinkedSelect

/-- A call under way. -/
structure Thread where
  number : Nat
  call : Call
  activity : Activity

/-- The call of a section, where it stands before it. -/
def Section.entry (x : Section) : Thread :=
  ⟨x.number, x.call, x.start⟩

/-- The call of a section, where it stands after it. -/
def Section.exit (x : Section) : Thread :=
  ⟨x.number, x.call, x.stop⟩

/-- A form and the calls under way over it. -/
structure Pool where
  form : Form
  /-- how many calls were started -/
  started : Nat
  threads : Multiset Thread

namespace Pool

variable {q : Pool} {t u : Thread} {gone others : Multiset Thread}

theorem mem_of_eq_cons (h : q.threads = t ::ₘ others) : t ∈ q.threads := by
  rw [h]
  exact Multiset.mem_cons_self _ _

theorem mem_of_mem_others (h : q.threads = t ::ₘ others) (hu : u ∈ others) : u ∈ q.threads := by
  rw [h]
  exact Multiset.mem_cons_of_mem hu

theorem mem_of_mem_rest (h : q.threads = gone + others) (hu : u ∈ others) : u ∈ q.threads := by
  rw [h]
  exact Multiset.mem_add.mpr (Or.inr hu)

/-- What holds of one call and of the others holds of all. -/
theorem forall_of_eq_cons {P : Thread → Prop} (h : q.threads = t ::ₘ others) (ht : P t) (ho : ∀ u ∈ others, P u) :
    ∀ u ∈ q.threads, P u := by
  intro u hu
  rw [h] at hu
  rcases Multiset.mem_cons.mp hu with rfl | hu
  · exact ht
  · exact ho u hu

/-- What holds of the calls that leave and of the others holds of all. -/
theorem forall_of_eq_add {P : Thread → Prop} (h : q.threads = gone + others) (hg : ∀ u ∈ gone, P u)
    (ho : ∀ u ∈ others, P u) : ∀ u ∈ q.threads, P u := by
  intro u hu
  rw [h] at hu
  rcases Multiset.mem_add.mp hu with hu | hu
  · exact hg u hu
  · exact ho u hu

end Pool

/-- A call may rest here while another one runs: it waits for a reply, or a load of it has just ended. -/
def Activity.rests : Activity → Bool
  | .waiting _ | .returned _ _ => true
  | _ => false

/-- Calls start and leave, and one call at a time runs a section while the others stand where `idle` allows it. -/
inductive Course (idle : Activity → Prop) (p : Pool) : List Section → Pool → Prop
  | nil : Course idle p [] p
  | start {xs : List Section} {q : Pool} (call : Call) (h : Course idle p xs q)
      (hi : ∀ t ∈ q.threads, idle t.activity) :
      Course idle p xs
        { q with started := q.started + 1, threads := ⟨q.started, call, .entered call⟩ ::ₘ q.threads }
  | leave {xs : List Section} {q : Pool} {gone others : Multiset Thread} (h : Course idle p xs q)
      (ht : q.threads = gone + others) (hg : ∀ t ∈ gone, t.activity.canAdvance = false) :
      Course idle p xs { q with threads := others }
  | act {xs : List Section} {q : Pool} {x : Section} {others : Multiset Thread} (h : Course idle p xs q)
      (hx : x.Runs) (hb : x.before = q.form) (ht : q.threads = x.entry ::ₘ others)
      (hi : ∀ t ∈ others, idle t.activity) :
      Course idle p (xs ++ [x]) { q with form := x.after, threads := x.exit ::ₘ others }

namespace Course

variable {idle : Activity → Prop} {p q r : Pool} {xs ys : List Section}

/-- The course of one section. -/
theorem one {x : Section} {others : Multiset Thread} (hx : x.Runs) (hb : x.before = q.form)
    (ht : q.threads = x.entry ::ₘ others) (hi : ∀ t ∈ others, idle t.activity) :
    Course idle q [x] { q with form := x.after, threads := x.exit ::ₘ others } :=
  .act .nil hx hb ht hi

theorem trans (h₁ : Course idle p xs q) (h₂ : Course idle q ys r) : Course idle p (xs ++ ys) r := by
  induction h₂ with
  | nil => rw [List.append_nil]; exact h₁
  | start call _ hi ih => exact .start call ih hi
  | leave _ ht hg ih => exact .leave ih ht hg
  | act _ hx hb ht hi ih =>
    rw [← List.append_assoc]
    exact .act ih hx hb ht hi

/-- A course passes through a pool between any two of its sections. -/
theorem split (h : Course idle p (xs ++ ys) r) : ∃ q, Course idle p xs q ∧ Course idle q ys r := by
  generalize hz : xs ++ ys = zs at h
  induction h generalizing ys with
  | nil =>
    obtain ⟨rfl, rfl⟩ := List.append_eq_nil_iff.mp hz
    exact ⟨p, .nil, .nil⟩
  | start call _ hi ih =>
    obtain ⟨q, h₁, h₂⟩ := ih hz
    exact ⟨q, h₁, .start call h₂ hi⟩
  | leave _ ht hg ih =>
    obtain ⟨q, h₁, h₂⟩ := ih hz
    exact ⟨q, h₁, .leave h₂ ht hg⟩
  | @act zs q x others h hx hb ht hi ih =>
    rcases List.eq_nil_or_concat ys with rfl | ⟨ys', y, rfl⟩
    · rw [List.append_nil] at hz
      rw [hz]
      exact ⟨_, .act h hx hb ht hi, .nil⟩
    · rw [List.concat_eq_append] at hz ⊢
      rw [← List.append_assoc] at hz
      obtain ⟨hzs, hy⟩ := List.append_inj' hz rfl
      cases hy
      obtain ⟨q', h₁, h₂⟩ := ih hzs
      exact ⟨q', h₁, .act h₂ hx hb ht hi⟩

/-- A course with one more section at its front. -/
theorem cons_inv {x : Section} (h : Course idle p (x :: xs) r) :
    ∃ q others, q.form = x.before ∧ x.Runs ∧ q.threads = x.entry ::ₘ others ∧
      (∀ t ∈ others, idle t.activity) ∧ Course idle p [] q ∧
      Course idle { q with form := x.after, threads := x.exit ::ₘ others } xs r := by
  generalize hz : x :: xs = zs at h
  induction h generalizing xs with
  | nil => cases hz
  | start call _ hi ih =>
    obtain ⟨q, others, hb, hx, ht, ho, h₁, h₂⟩ := ih hz
    exact ⟨q, others, hb, hx, ht, ho, h₁, .start call h₂ hi⟩
  | leave _ hl hg ih =>
    obtain ⟨q, others, hb, hx, ht, ho, h₁, h₂⟩ := ih hz
    exact ⟨q, others, hb, hx, ht, ho, h₁, .leave h₂ hl hg⟩
  | @act zs q y others h hy hb ht hi ih =>
    rcases List.eq_nil_or_concat xs with rfl | ⟨xs', z, rfl⟩
    · have hz : [] ++ [x] = zs ++ [y] := hz
      obtain ⟨rfl, hxy⟩ := List.append_inj' hz rfl
      cases hxy
      exact ⟨q, others, hb.symm, hy, ht, hi, h, .nil⟩
    · rw [List.concat_eq_append] at hz ⊢
      have hz : (x :: xs') ++ [z] = zs ++ [y] := hz
      obtain ⟨rfl, hzy⟩ := List.append_inj' hz rfl
      cases hzy
      obtain ⟨q', others', hb', hx, ht', ho, h₁, h₂⟩ := ih rfl
      exact ⟨q', others', hb', hx, ht', ho, h₁, .act h₂ hy hb ht hi⟩

end Course

/-! ## The courses of sessions -/

/-- A waiting call as a call under way. -/
def Waiting.thread (w : Waiting) : Thread :=
  ⟨w.number, w.call, .waiting w.pending⟩

namespace Session

variable {σ : Type} {src : Source σ}

/-- The waiting calls of a session and others that are under way over its form. -/
def poolWith (s : Session σ) (others : Multiset Thread) : Pool :=
  ⟨s.form, s.started, others + (s.waiting.map Waiting.thread : List Thread)⟩

/-- The waiting calls of a session. -/
def pool (s : Session σ) : Pool :=
  s.poolWith 0

/-- Of the calls in a session all rest that wait. -/
theorem rests_of_mem {s : Session σ} {others : Multiset Thread} (h : ∀ t ∈ others, t.activity.rests = true) :
    ∀ t ∈ (s.poolWith others).threads, t.activity.rests = true := by
  intro t ht
  rcases Multiset.mem_add.mp ht with ht | ht
  · exact h t ht
  · obtain ⟨w, _, rfl⟩ := List.mem_map.mp (Multiset.mem_coe.mp ht)
    rfl

theorem threads_cons (s : Session σ) (t : Thread) (others : Multiset Thread) :
    (s.poolWith (t ::ₘ others)).threads = t ::ₘ (s.poolWith others).threads :=
  Multiset.cons_add ..

/-- A run of a call is a course, whatever other calls rest meanwhile. -/
theorem course_ran {gap : Option Call} {number : Nat} {call : Call} {s t : Session σ} {a : Activity}
    {xs : List Section} (h : Ran src gap number call s a xs t) :
    ∀ others : Multiset Thread, (∀ t ∈ others, t.activity.rests = true) →
      Course (·.rests = true) (s.poolWith (⟨number, call, a⟩ ::ₘ others)) xs (t.poolWith others) := by
  induction h with
  | @ends gap number call s outcome =>
    intro others ho
    have ht : (s.poolWith (⟨number, call, .ended outcome⟩ ::ₘ others)).threads =
        {⟨number, call, .ended outcome⟩} + (s.poolWith others).threads := by
      simp only [poolWith, Multiset.cons_add, Multiset.singleton_add]
    refine .leave .nil ht fun t hm => ?_
    rw [Multiset.mem_singleton.mp hm]
    rfl
  | @holds gap number call s p source hf =>
    intro others ho
    have he : s.poolWith (⟨number, call, .waiting p⟩ ::ₘ others) = poolWith { s with
        source
        requests := s.requests ++ [p.request]
        waiting := s.waiting ++ [⟨number, call, s.requests.length, p⟩] } others := by
      simp only [poolWith, List.map_append, List.map_cons, List.map_nil, ← Multiset.coe_add, Multiset.coe_singleton,
        Pool.mk.injEq, true_and, Waiting.thread]
      rw [← Multiset.singleton_add, Multiset.add_assoc, Multiset.add_comm, Multiset.add_assoc]
    rw [he]
    exact .nil
  | @answers gap number call s t p reply source xs hf _ ih =>
    intro others ho
    have ht := threads_cons s ⟨number, call, .waiting p⟩ others
    refine (Course.one .reply rfl ht (rests_of_mem ho)).trans ?_
    have hi := ih others ho
    simp only [poolWith, Multiset.cons_add] at hi
    exact hi
  | @own gap number call s t a xs h _ ih =>
    intro others ho
    have ht := threads_cons s ⟨number, call, a⟩ others
    refine (Course.one (.own h) rfl ht (rests_of_mem ho)).trans ?_
    have hi := ih others ho
    simp only [poolWith, Multiset.cons_add] at hi
    exact hi
  | @gap c number call s t u load outcome xs ys _ _ ihg ihr =>
    intro others ho
    have ho' : ∀ t ∈ (⟨number, call, .returned load outcome⟩ ::ₘ others : Multiset Thread),
        t.activity.rests = true := by
      intro t ht
      rcases Multiset.mem_cons.mp ht with rfl | ht
      · rfl
      · exact ho t ht
    have hs : Course (·.rests = true) _ [] _ := .start c .nil (rests_of_mem (s := s) ho')
    simp only [poolWith, ← Multiset.cons_add] at hs
    exact (hs.trans (ihg _ ho')).trans (ihr others ho)

/-- What is left of the waiting calls when those of a request are taken out. -/
theorem waiting_of_take? {s t : Session σ} {request : Nat} {w : Waiting} (h : s.take? request = some (w, t)) :
    t = { s with waiting := s.waiting.filter (·.request ≠ request) } ∧ w ∈ s.waiting ∧ w.request = request := by
  unfold take? at h
  obtain ⟨w', hf, hw⟩ := Option.map_eq_some_iff.mp h
  cases hw
  exact ⟨rfl, List.mem_of_find?_eq_some hf, by simpa using List.find?_some hf⟩

/-- The waiting calls without some of them. -/
theorem threads_filter (s : Session σ) (keep : Waiting → Bool) :
    ((s.waiting.map Waiting.thread : List Thread) : Multiset Thread) =
      ↑((s.waiting.filter (!keep ·)).map Waiting.thread) + ↑((s.waiting.filter keep).map Waiting.thread) := by
  rw [Multiset.coe_add, ← List.map_append, Multiset.coe_eq_coe]
  exact ((List.perm_append_comm.trans (List.filter_append_perm keep s.waiting)).map _).symm

theorem course_take? {s t : Session σ} {request : Nat} {w : Waiting} (h : s.take? request = some (w, t)) :
    Course (·.rests = true) s.pool [] (t.poolWith {w.thread}) := by
  obtain ⟨rfl, hw, hr⟩ := waiting_of_take? h
  have hm : w ∈ s.waiting.filter (fun w => !decide (w.request ≠ request)) := by
    simp [List.mem_filter, hw, hr]
  obtain ⟨gone, hg⟩ := Multiset.exists_cons_of_mem (Multiset.mem_coe.mpr (List.mem_map_of_mem (f := Waiting.thread) hm))
  have ht : s.pool.threads = gone +
      (poolWith { s with waiting := s.waiting.filter (·.request ≠ request) } {w.thread}).threads := by
    rw [pool, poolWith, threads_filter s (fun w => decide (w.request ≠ request)), hg]
    simp only [poolWith, Multiset.zero_add, Multiset.singleton_add, Multiset.cons_add, Multiset.add_cons]
  refine .leave .nil ht fun t ht => ?_
  have : t ∈ (w.thread ::ₘ gone) := Multiset.mem_cons_of_mem ht
  rw [← hg] at this
  obtain ⟨w', _, rfl⟩ := List.mem_map.mp (Multiset.mem_coe.mp this)
  rfl

/-- A waiting call takes its reply and runs. -/
theorem course_hand {gap : Option Call} {s t : Session σ} {w : Waiting} {reply : Reply} {xs : List Section}
    (h : Ran src gap w.number w.call (s.hand w reply).1 (s.hand w reply).2 xs t) :
    Course (·.rests = true) (s.poolWith {w.thread}) (s.handSection w reply :: xs) t.pool := by
  have ho : ∀ t ∈ (0 : Multiset Thread), t.activity.rests = true := fun t ht => absurd ht (Multiset.notMem_zero t)
  refine (Course.one .reply rfl (threads_cons s w.thread 0) (rests_of_mem ho)).trans ?_
  have hc := course_ran h 0 ho
  simp only [poolWith, Multiset.cons_add] at hc ⊢
  exact hc

/-- A call starts and runs, whatever other calls rest meanwhile. -/
theorem course_start {gap : Option Call} {s t : Session σ} {call : Call} {xs : List Section}
    (h : Ran src gap s.started call { s with started := s.started + 1 } (.entered call) xs t)
    (others : Multiset Thread) (ho : ∀ t ∈ others, t.activity.rests = true) :
    Course (·.rests = true) (s.poolWith others) xs (t.poolWith others) := by
  have hs : Course (·.rests = true) _ [] _ := .start call .nil (rests_of_mem (s := s) ho)
  simp only [poolWith, ← Multiset.cons_add] at hs
  exact hs.trans (course_ran h others ho)

theorem course_handled {s t : Session σ} {e : Event} {xs : List Section} (h : Handled src s e xs t) :
    Course (·.rests = true) s.pool xs t.pool := by
  cases h with
  | start h => exact course_start h 0 fun t ht => absurd ht (Multiset.notMem_zero t)
  | missing => exact .nil
  | release h hr => exact (course_take? h).trans (course_hand hr)
  | @cancel number =>
    have ht : s.pool.threads = ↑((s.waiting.filter fun w => !decide (w.number ≠ number)).map Waiting.thread) +
        (s.cancel number).pool.threads := by
      simp only [pool, poolWith, Multiset.zero_add]
      exact threads_filter s fun w => decide (w.number ≠ number)
    refine .leave .nil ht fun t ht => ?_
    obtain ⟨w, _, rfl⟩ := List.mem_map.mp (Multiset.mem_coe.mp ht)
    rfl

variable (src)

/-- **What a session does is a course**, in which calls that do not run wait or stand behind a load that has ended. -/
theorem course_history (s : Session σ) (events : List Event) :
    Course (·.rests = true) s.pool (s.history src events) (s.after src events).pool := by
  induction events generalizing s with
  | nil => exact .nil
  | cons e events ih => exact (course_handled (handled s e)).trans (ih _)

end Session

end LinkedSelect
