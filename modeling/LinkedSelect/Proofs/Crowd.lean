import LinkedSelect.Proofs.Superseding

/-!
# Calls on threads of their own

A session runs a call until it is held back or has ended. A `Crowd` does not: a scheduler says, turn by turn, which call
starts, which one runs its next section, and which one takes what reply, so that any other calls may run between two
sections of a call.

* A turn starts a call, or it is one section of a call while the others stand where they are (`Crowd.pool_start`,
  `Crowd.pool_act`).
* What starts and sections keep holds after all turns (`Crowd.invariant`).
-/

namespace LinkedSelect

/-- What a scheduler says. -/
inductive Turn
  | start (call : Call)
  /-- the call with this number runs its next section, or takes this reply if there is one -/
  | act (number : Nat) (reply : Option Reply)

/-- A form and all calls that were started over it. -/
structure Crowd where
  form : Form
  /-- the calls, each in the place of its number -/
  threads : List Thread := []

/-- The section of a call in its turn. A call that waits for a reply has none without one, and any other call none with
one. -/
def Thread.section? (t : Thread) (f : Form) : Option Reply → Option Section
  | none =>
    if t.activity.canAdvance then
      some ⟨t.number, t.call, f, t.activity, none, (t.activity.advance f).1, (t.activity.advance f).2⟩
    else none
  | some reply =>
    match t.activity with
    | .waiting p => some ⟨t.number, t.call, f, .waiting p, some reply, (Activity.resume f p reply).1,
        (Activity.resume f p reply).2⟩
    | _ => none

theorem Thread.of_section? {t : Thread} {f : Form} {reply : Option Reply} {x : Section}
    (h : t.section? f reply = some x) : x.Runs ∧ x.before = f ∧ x.entry = t := by
  obtain ⟨number, call, a⟩ := t
  cases reply with
  | none =>
    by_cases ha : a.canAdvance = true
    · simp only [section?, ha, if_true, Option.some.injEq] at h
      subst h
      exact ⟨.own ha, rfl, rfl⟩
    · simp [section?, ha] at h
  | some reply =>
    cases a <;> simp only [section?, Option.some.injEq, reduceCtorEq] at h
    subst h
    exact ⟨.reply, rfl, rfl⟩

namespace Crowd

/-- The section of a turn. -/
def section? (c : Crowd) : Turn → Option Section
  | .start _ => none
  | .act number reply => c.threads[number]?.bind (·.section? c.form reply)

/-- The crowd after a turn. -/
def take (c : Crowd) : Turn → Crowd
  | .start call => { c with threads := c.threads ++ [⟨c.threads.length, call, .entered call⟩] }
  | .act number reply =>
    match c.section? (.act number reply) with
    | none => c
    | some x => ⟨x.after, c.threads.set number x.exit⟩

/-- The crowd after some turns. -/
def after (c : Crowd) (turns : List Turn) : Crowd :=
  turns.foldl take c

/-- The sections of some turns, in order. -/
def history (c : Crowd) : List Turn → List Section
  | [] => []
  | turn :: turns => (c.section? turn).toList ++ (c.take turn).history turns

/-- The calls of a crowd. -/
def pool (c : Crowd) : Pool :=
  ⟨c.form, c.threads.length, c.threads⟩

variable {c : Crowd}

theorem pool_start (c : Crowd) (call : Call) : (c.take (.start call)).pool =
    { c.pool with
      started := c.pool.started + 1
      threads := ⟨c.pool.started, call, .entered call⟩ ::ₘ c.pool.threads } := by
  simp only [take, pool, List.length_append, List.length_singleton, Pool.mk.injEq, true_and, Multiset.cons_coe,
    Multiset.coe_eq_coe]
  exact List.perm_append_singleton _ _

/-- A turn that runs a section runs that of one call, and the others stay where they are. -/
theorem pool_act {number : Nat} {reply : Option Reply} {x : Section}
    (h : c.section? (.act number reply) = some x) : x.Runs ∧ x.before = c.pool.form ∧
      ∃ others : Multiset Thread, c.pool.threads = x.entry ::ₘ others ∧
        (c.take (.act number reply)).pool = { c.pool with form := x.after, threads := x.exit ::ₘ others } := by
  obtain ⟨t, ht, hx⟩ := Option.bind_eq_some_iff.mp h
  obtain ⟨hlt, rfl⟩ := List.getElem?_eq_some_iff.mp ht
  obtain ⟨hr, hb, he⟩ := Thread.of_section? hx
  refine ⟨hr, hb, (c.threads.eraseIdx number : List Thread), ?_, ?_⟩
  · rw [he, Multiset.cons_coe, pool, Multiset.coe_eq_coe]
    exact (List.getElem_cons_eraseIdx_perm hlt).symm
  · simp only [take, h, pool, List.length_set, Pool.mk.injEq, true_and, Multiset.cons_coe, Multiset.coe_eq_coe]
    exact List.set_perm_cons_eraseIdx hlt _

/-- What the starts of calls and the sections of one call among others keep holds after all turns. -/
theorem invariant {I : Pool → List Section → Prop} {turns : List Turn}
    (hstart : ∀ q xs call, .start call ∈ turns → I q xs → I
      { q with started := q.started + 1, threads := ⟨q.started, call, .entered call⟩ ::ₘ q.threads } xs)
    (hact : ∀ q xs x others, I q xs → x.Runs → x.before = q.form → q.threads = x.entry ::ₘ others → I
      { q with form := x.after, threads := x.exit ::ₘ others } (xs ++ [x]))
    {xs : List Section} (h : I c.pool xs) : I (c.after turns).pool (xs ++ c.history turns) := by
  induction turns generalizing c xs with
  | nil =>
    rw [history, List.append_nil]
    exact h
  | cons turn turns ih =>
    rw [history, ← List.append_assoc]
    refine ih (c := c.take turn) (fun q ys call hm => hstart q ys call (List.mem_cons_of_mem _ hm)) ?_
    cases turn with
    | start call =>
      rw [pool_start, section?, Option.toList_none, List.append_nil]
      exact hstart _ _ call List.mem_cons_self h
    | act number reply =>
      cases hs : c.section? (.act number reply) with
      | none =>
        rw [Option.toList_none, List.append_nil, take, hs]
        exact h
      | some x =>
        obtain ⟨hr, hb, others, ht, hp⟩ := pool_act hs
        rw [hp, Option.toList_some]
        exact hact _ _ x others h hr hb ht

end Crowd

end LinkedSelect
