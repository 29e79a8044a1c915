import Mathlib.Algebra.GroupWithZero.Nat
import Mathlib.Algebra.Order.BigOperators.Group.List
import Mathlib.Algebra.Order.Group.Nat
import LinkedSelect.Proofs.Waiting

/-!
# The order of replies does not matter

When the replies to all waiting requests are fixed, and those to the requests that follow from them, a form has one
form to which it settles (`Form.settled`), whatever the order in which the replies come.

* Of the calls that wait, at most one waits for the reply that a field waits for (`Session.awaited?_eq_some`), and the
  other replies change nothing.
* Areas that come may restore one of them, and then the racks of that one are asked for anew (`Form.reload`). This
  forgets whether other racks have come meanwhile (`Form.reload_resolve`).
* A release keeps what the form settles to (`Session.settled_release`), and a form over which no call waits is settled.
* Releases come to an end: there is an order that leaves no call waiting (`Session.exists_drained`).
* `Session.drain_order_irrelevant`: two orders of releases that leave no call waiting leave the same form.
-/

namespace LinkedSelect

/-! ## What a form settles to -/

namespace Field

/-- The field after a load for a value of the parent whose reply is given. -/
def reload (reply : Reply) (filter : String) (retain : Bool) (x : Field) : Field :=
  match if filter = "" then none else x.endpoint with
  | none => x.decline
  | some _ => x.beginLoad.resolve reply (if retain then x.retained? else none)

/-- A load forgets the reply to the load before it. -/
theorem reload_resolve (reply reply' : Reply) (filter : String) (retain : Bool) (wanted : Option String) (x : Field) :
    (x.resolve reply' wanted).reload reply filter retain = x.reload reply filter retain := by
  have he : (x.resolve reply' wanted).endpoint = x.endpoint := rfl
  unfold reload
  rw [he]
  split <;> rfl

end Field

namespace Form

/-- The call that waits for the reply that the field of a level waits for. -/
def awaited? (f : Form) (ws : List Waiting) (l : Level) : Option Waiting :=
  ws.find? fun w => w.pending.load.level = l ∧ (f.get l).phase = .loading w.pending.generation

/-- The form after a load whose reply is given by parameter and value. -/
def reload (fixed : String → String → Reply) (f : Form) (load : Load) : Form :=
  match f.beginLoad load with
  | (g, .ended _) => g
  | (g, .waits p) => g.modify load.level (·.resolve (fixed p.request.param p.request.value) p.wanted)

/-- The form after the reply that the racks wait for. -/
def settleRack (answer : Waiting → Reply) (f : Form) (ws : List Waiting) : Form :=
  match f.awaited? ws .rack with
  | none => f
  | some w => f.modify .rack (·.resolve (answer w) w.pending.wanted)

/-- The form after all replies: the areas that are waited for come, and if one of them is restored its racks are loaded;
else the racks that are waited for come. -/
def settled (answer : Waiting → Reply) (fixed : String → String → Reply) (f : Form) (ws : List Waiting) : Form :=
  match f.awaited? ws .area with
  | none => f.settleRack answer ws
  | some w =>
    let g := f.modify .area (·.resolve (answer w) w.pending.wanted)
    match w.pending.load.next? (Field.outcomeOf (answer w) w.pending.wanted) with
    | none => g.settleRack answer ws
    | some load => g.reload fixed load

variable {f : Form} {ws : List Waiting} {l : Level} {w : Waiting}
variable {answer : Waiting → Reply} {fixed : String → String → Reply}

theorem awaited?_eq_none (h : ∀ g, (f.get l).phase ≠ .loading g) : f.awaited? ws l = none := by
  refine List.find?_eq_none.mpr fun w _ hw => ?_
  simp only [decide_eq_true_eq] at hw
  exact h _ hw.2

theorem awaited?_congr {g : Form} (h : (g.get l).phase = (f.get l).phase) : g.awaited? ws l = f.awaited? ws l := by
  simp only [awaited?, h]

theorem of_awaited? (h : f.awaited? ws l = some w) :
    w ∈ ws ∧ w.pending.load.level = l ∧ (f.get l).phase = .loading w.pending.generation :=
  ⟨List.mem_of_find?_eq_some h, by simpa using List.find?_some h⟩

/-- Calls that are taken out do not matter if the field does not wait for their replies. -/
theorem awaited?_filter {keep : Waiting → Bool}
    (h : ∀ w ∈ ws, keep w = false → ¬(w.pending.load.level = l ∧ (f.get l).phase = .loading w.pending.generation)) :
    f.awaited? (ws.filter keep) l = f.awaited? ws l := by
  unfold awaited?
  induction ws with
  | nil => rfl
  | cons w ws ih =>
    have ih := ih fun v hv => h v (List.mem_cons_of_mem _ hv)
    cases hk : keep w with
    | true => rw [List.filter_cons_of_pos hk, List.find?_cons, List.find?_cons, ih]
    | false =>
      have hw := h w List.mem_cons_self hk
      rw [List.filter_cons_of_neg (by simp [hk]), ih, List.find?_cons_of_neg (by simpa using hw)]

theorem settleRack_of_none (h : f.awaited? ws .rack = none) : f.settleRack answer ws = f := by
  simp only [settleRack, h]

theorem settled_of_none (h : f.awaited? ws .area = none) : f.settled answer fixed ws = f.settleRack answer ws := by
  simp only [settled, h]

/-- Only the awaited calls count. -/
theorem settled_congr {ws' : List Waiting} (h : ∀ l, f.awaited? ws' l = f.awaited? ws l) :
    f.settled answer fixed ws' = f.settled answer fixed ws := by
  have hg : ∀ w : Waiting, (f.modify .area (·.resolve (answer w) w.pending.wanted)).awaited? ws' .rack =
      (f.modify .area (·.resolve (answer w) w.pending.wanted)).awaited? ws .rack := fun _ => h .rack
  simp only [settled, settleRack, h, hg]

/-- A form over which no call waits is settled. -/
theorem settled_nil (answer : Waiting → Reply) (fixed : String → String → Reply) (f : Form) :
    f.settled answer fixed [] = f := rfl

/-- A load without a value of the parent or without an endpoint refuses the field. -/
theorem get_reload_of_none {l : Level} {value : String} (he : f.endpoint? l value = none) (reply : Reply)
    (retain : Bool) : (f.get l).reload reply value retain = (f.get l).decline := by
  rw [Field.reload, show (if value = "" then none else (f.get l).endpoint) = none from he]

/-- Any other load shows its reply. -/
theorem get_reload_of_some {l : Level} {value endpoint : String} (he : f.endpoint? l value = some endpoint)
    (reply : Reply) (retain : Bool) : (f.get l).reload reply value retain =
      (f.get l).beginLoad.resolve reply (if retain then (f.get l).retained? else none) := by
  rw [Field.reload, show (if value = "" then none else (f.get l).endpoint) = some endpoint from he]

/-- A load of the racks, under an area that it was meant for, changes the racks alone. -/
theorem reload_eq {load : Load} (hl : load.level = .rack) (ho : f.isOutdated load .area = false) :
    f.reload fixed load = f.modify .rack (·.reload (fixed "area" load.filter) load.filter load.retain) := by
  rcases beginLoad_eq (by rw [hl]; rfl) ho with ⟨he, hb⟩ | ⟨endpoint, he, hb⟩
  · rw [hl] at he hb
    have hr : f.rack.reload (fixed "area" load.filter) load.filter load.retain = f.rack.decline :=
      get_reload_of_none he _ _
    simp only [reload, hb, modify, hr]
    rfl
  · rw [hl] at he hb
    have hr : f.rack.reload (fixed "area" load.filter) load.filter load.retain =
        f.rack.beginLoad.resolve (fixed "area" load.filter) (if load.retain then f.rack.retained? else none) :=
      get_reload_of_some he _ _
    simp only [reload, hb, hl, modify, hr]
    rfl

/-- Racks that are asked for anew belong to the next generation, and the areas stay. -/
theorem of_beginLoad_rack {g : Form} {load : Load} {p : Pending} (hl : load.level = .rack)
    (h : f.beginLoad load = (g, .waits p)) :
    g.area = f.area ∧ g.rack.phase = .loading p.generation ∧ p.generation = f.rack.generation + 1 := by
  have hb := begins f load
  rw [h] at hb
  cases hb
  rw [hl]
  exact ⟨rfl, rfl, rfl⟩

/-- When racks are asked for anew it does not matter which racks have come before. -/
theorem reload_resolve {load : Load} (hl : load.level = .rack) (ho : f.isOutdated load .area = false) (reply : Reply)
    (wanted : Option String) :
    (f.modify .rack (·.resolve reply wanted)).reload fixed load = f.reload fixed load := by
  rw [reload_eq hl ho, reload_eq hl (f := f.modify .rack (·.resolve reply wanted)) ho]
  simp only [modify, Field.reload_resolve]

end Form

/-- Areas go on with the racks of an area that is selected. -/
theorem Load.isOutdated_next? {l load : Load} {reply : Reply} {wanted : Option String} (hl : l.level = .area)
    (h : l.next? (Field.outcomeOf reply wanted) = some load) (f : Form) :
    (f.modify .area (·.resolve reply wanted)).isOutdated load .area = false := by
  have hv : ((f.modify .area (·.resolve reply wanted)).get .area).select.value = load.filter :=
    congrArg (·.getD "") (Load.of_next?_area hl h).2
  simp [Form.isOutdated, hv]

/-- What a source replies at once is what is fixed for the parameter and the value of the request. -/
def Source.Agrees {σ : Type} (src : Source σ) (fixed : String → String → Reply) : Prop :=
  ∀ st r reply st', src.fetch st r = (some reply, st') → reply = fixed r.param r.value

namespace Session

variable {σ : Type} {src src₀ : Source σ}

/-! ## A call goes on -/

/-- The call whose load the field waits for is the one that is awaited. -/
theorem awaited?_eq_some {s : Session σ} {xs : List Section} {w : Waiting} {l : Level} (ho : s.pool.Ordered xs)
    (hw : w ∈ s.waiting) (hl : w.pending.load.level = l)
    (hp : (s.form.get l).phase = .loading w.pending.generation) : s.form.awaited? s.waiting l = some w := by
  cases h : s.form.awaited? s.waiting l with
  | none =>
    have := List.find?_eq_none.mp h w hw
    simp [hl, hp] at this
  | some v =>
    obtain ⟨hv, hlv, hpv⟩ := Form.of_awaited? h
    rw [hp] at hpv
    rw [waiting_eq ho hv hw (hlv.trans hl.symm) (Phase.loading.inj hpv).symm]

/-- A load of the racks, under an area that it was meant for, is over at once, or its request is held back. -/
theorem ran_ready_rack {s t : Session σ} {number : Nat} {call : Call} {xs : List Section} {load : Load}
    {fixed : String → String → Reply} (hsrc : src.Agrees fixed) (hl : load.level = .rack)
    (ho : s.form.isOutdated load .area = false)
    (h : Ran src none number call s (.ready load) xs t) :
    t.form = s.form.reload fixed load ∧ t.waiting = s.waiting ∧ (∀ g, t.form.rack.phase ≠ .loading g) ∨
      ∃ p, p.load = load ∧ s.form.beginLoad load = (t.form, .waits p) ∧
        t.waiting = s.waiting ++ [⟨number, call, s.requests.length, p⟩] := by
  cases h with
  | own _ hr =>
    simp only [Activity.advance] at hr
    rw [Form.reload]
    rcases Form.beginLoad_eq (by rw [hl]; rfl) ho with ⟨_, hb⟩ | ⟨endpoint, _, hb⟩
    · rw [hb] at hr ⊢
      obtain ⟨hf, hw⟩ := ran_returned_last (Load.next?_rack hl _) hr
      refine Or.inl ⟨hf, hw, fun g hg => ?_⟩
      rw [hf, hl] at hg
      cases hg
    · rw [hb] at hr ⊢
      cases hr with
      | own h => cases h
      | holds hf => exact Or.inr ⟨_, rfl, rfl, rfl⟩
      | answers hf hr =>
        obtain rfl := hsrc _ _ _ _ hf
        rw [Activity.resume_of_loading (by rw [Form.get_modify, if_pos rfl, Form.get_disable_descendants]; rfl)] at hr
        obtain ⟨hform, hw⟩ := ran_returned_last (Load.next?_rack hl _) hr
        refine Or.inl ⟨hform, hw, fun g hg => ?_⟩
        rw [hform] at hg
        simp only [hl] at hg
        cases hg

/-! ## A release keeps what the form settles to -/

section Release

variable {s t u : Session σ} {i : Nat} {w : Waiting} {xs ys : List Section}
variable {answer : Waiting → Reply} {fixed : String → String → Reply}

/-- The calls that wait when one has been taken out are awaited as before, if the field did not wait for that one. -/
theorem awaited?_take? (hn : s.Numbered) (h : s.take? i = some (w, t)) {f : Form} {l : Level}
    (hl : ¬(w.pending.load.level = l ∧ (f.get l).phase = .loading w.pending.generation)) :
    f.awaited? t.waiting l = f.awaited? s.waiting l := by
  obtain ⟨rfl, hw, hr⟩ := waiting_of_take? h
  refine Form.awaited?_filter fun v hv hk => ?_
  have hvr : v.request = w.request := by
    rw [hr]
    simpa using hk
  rw [eq_of_request_eq hn hv hw hvr]
  exact hl

/-- A reply that the field does not wait for leaves everything as it is. -/
theorem settled_stale (hn : s.Numbered) (h : s.take? i = some (w, t))
    (hp : (s.form.get w.pending.load.level).phase ≠ .loading w.pending.generation)
    (hr : Ran src none w.number w.call (t.hand w (answer w)).1 (t.hand w (answer w)).2 ys u) :
    u.form.settled answer fixed u.waiting = s.form.settled answer fixed s.waiting := by
  obtain ⟨hf, hw⟩ := ran_hand_stale h hp hr
  rw [hf, hw]
  exact Form.settled_congr fun l => awaited?_take? hn h (fun hl => hp (hl.1 ▸ hl.2))

/-- Racks that come, come before the areas or after them. -/
theorem settled_racks (ho : s.pool.Ordered xs) (hn : s.Numbered) (h : s.take? i = some (w, t))
    (hl : w.pending.load.level = .rack) (hp : s.form.rack.phase = .loading w.pending.generation)
    (hr : Ran src none w.number w.call (t.hand w (answer w)).1 (t.hand w (answer w)).2 ys u) :
    u.form.settled answer fixed u.waiting = s.form.settled answer fixed s.waiting := by
  obtain ⟨_, hw, _⟩ := waiting_of_take? h
  obtain ⟨hform, hwaiting⟩ := ran_hand_last h (by rw [hl]; exact hp) (Load.next?_rack hl _) hr
  rw [hl] at hform
  have hrack : s.form.awaited? s.waiting .rack = some w := awaited?_eq_some ho hw hl hp
  have harea : u.form.awaited? u.waiting .area = s.form.awaited? s.waiting .area := by
    rw [hform, hwaiting, Form.awaited?_congr (f := s.form) rfl]
    exact awaited?_take? hn h (by rw [hl]; simp)
  -- with or without areas, no racks are awaited any more
  have hnone : ∀ g : Form, g.rack = u.form.rack → g.settleRack answer u.waiting = g := fun g hg => by
    refine Form.settleRack_of_none (Form.awaited?_eq_none fun n hph => ?_)
    rw [show g.get .rack = u.form.rack from hg, hform] at hph
    cases hph
  cases ha : s.form.awaited? s.waiting .area with
  | none =>
    rw [Form.settled_of_none ha, Form.settled_of_none (harea.trans ha), hnone _ rfl, hform]
    simp only [Form.settleRack, hrack]
  | some v =>
    obtain ⟨_, hlv, _⟩ := Form.of_awaited? ha
    have hsettle : ∀ ws, (s.form.modify .area (·.resolve (answer v) v.pending.wanted)).awaited? ws .rack =
        s.form.awaited? ws .rack := fun ws => Form.awaited?_congr rfl
    cases hnext : v.pending.load.next? (Field.outcomeOf (answer v) v.pending.wanted) with
    | none =>
      simp only [Form.settled, harea, ha, hnext]
      rw [hnone (u.form.modify .area _) rfl, hform]
      simp only [Form.settleRack, hsettle, hrack]
      rfl
    | some load =>
      have hlr := (Load.of_next?_area hlv hnext).1
      simp only [Form.settled, harea, ha, hnext]
      rw [hform]
      exact Form.reload_resolve hlr (Load.isOutdated_next? hlv hnext s.form) (answer w) w.pending.wanted

/-- Areas that come make their call go on, and then the call waits for racks or is over. -/
theorem settled_areas (ho : s.pool.Ordered xs) (hn : s.Numbered) (h : s.take? i = some (w, t))
    (hl : w.pending.load.level = .area) (hp : s.form.area.phase = .loading w.pending.generation)
    (hsrc : src.Agrees fixed)
    (hanswer : ∀ v, s.requests.length ≤ v.request → answer v = fixed v.pending.request.param v.pending.request.value)
    (hr : Ran src none w.number w.call (t.hand w (answer w)).1 (t.hand w (answer w)).2 ys u) :
    u.form.settled answer fixed u.waiting = s.form.settled answer fixed s.waiting := by
  obtain ⟨ht, hw, _⟩ := waiting_of_take? h
  have harea : s.form.awaited? s.waiting .area = some w := awaited?_eq_some ho hw hl hp
  cases hnext : w.pending.load.next? (Field.outcomeOf (answer w) w.pending.wanted) with
  | none =>
    obtain ⟨hf, hwaiting⟩ := ran_hand_last h (by rw [hl]; exact hp) hnext hr
    rw [hl] at hf
    have hnone : u.form.awaited? u.waiting .area = none := Form.awaited?_eq_none fun n hph => by
      rw [hf] at hph
      cases hph
    rw [Form.settled_of_none hnone, hf, hwaiting]
    simp only [Form.settled, harea, hnext, Form.settleRack]
    rw [awaited?_take? hn h (by rw [hl]; simp)]
  | some load =>
    have hlr := (Load.of_next?_area hl hnext).1
    have hod := Load.isOutdated_next? hl hnext s.form
    have hlive : (t.form.get w.pending.load.level).phase = .loading w.pending.generation := by
      rw [hl, ht]
      exact hp
    have hform : t.form.modify w.pending.load.level (·.resolve (answer w) w.pending.wanted) =
        s.form.modify .area (·.resolve (answer w) w.pending.wanted) := by
      rw [hl, ht]
    simp only [hand, Activity.resume_of_loading hlive, hform] at hr
    obtain ⟨zs, hr⟩ := ran_returned hr
    rw [Activity.goOn, hnext] at hr
    have hsettled : s.form.settled answer fixed s.waiting =
        (s.form.modify .area (·.resolve (answer w) w.pending.wanted)).reload fixed load := by
      simp only [Form.settled, harea, hnext]
    rw [hsettled]
    rcases ran_ready_rack hsrc hlr hod hr with ⟨hf, _, hph⟩ | ⟨p, hload, hb, hwaiting⟩
    · have hpop : u.form.area.phase = .populated := by
        rw [hf, Form.reload_eq hlr hod]
        rfl
      rw [Form.settled_of_none (Form.awaited?_eq_none fun n hn => by
        rw [show (u.form.get .area).phase = .populated from hpop] at hn
        cases hn), Form.settleRack_of_none (Form.awaited?_eq_none hph), hf]
    · obtain ⟨hfa, hfr, hg⟩ := Form.of_beginLoad_rack hlr hb
      have hnone : u.form.awaited? u.waiting .area = none := Form.awaited?_eq_none fun n hph => by
        rw [show u.form.get .area = _ from hfa] at hph
        cases hph
      -- the calls that waited before wait for earlier racks
      have hothers : ∀ v ∈ t.waiting, ¬(v.pending.load.level = .rack ∧
          (u.form.get .rack).phase = .loading v.pending.generation) := by
        rintro v hv ⟨hlv, hpv⟩
        rw [ht] at hv
        obtain ⟨x, hx, _, hxa⟩ := asks_of_waiting ho (List.mem_of_mem_filter hv)
        have hle := ho.generation_le x hx v.pending hxa
        rw [hlv] at hle
        have hle : v.pending.generation ≤ s.form.rack.generation := hle
        rw [show (u.form.get .rack).phase = _ from hfr] at hpv
        have hpv := Phase.loading.inj hpv
        have hg : p.generation = s.form.rack.generation + 1 := hg
        omega
      have hrack : u.form.awaited? u.waiting .rack = some ⟨w.number, w.call, t.requests.length, p⟩ := by
        rw [hwaiting]
        unfold Form.awaited?
        rw [List.find?_append, List.find?_eq_none.mpr fun v hv => by simpa using hothers v hv]
        have hfr : (u.form.get .rack).phase = .loading p.generation := hfr
        simp [hload, hlr, hfr]
      have hlen : s.requests.length ≤ t.requests.length := by rw [ht]
      rw [Form.settled_of_none hnone, Form.reload, hb]
      simp only [Form.settleRack, hrack, hlr]
      rw [hanswer _ hlen]

/-- **A release keeps what the form settles to.** -/
theorem settled_release (ho : s.pool.Ordered xs) (hn : s.Numbered) (h : s.take? i = some (w, t))
    (hsrc : src.Agrees fixed)
    (hanswer : ∀ v, s.requests.length ≤ v.request → answer v = fixed v.pending.request.param v.pending.request.value)
    (hr : Ran src none w.number w.call (t.hand w (answer w)).1 (t.hand w (answer w)).2 ys u) :
    u.form.settled answer fixed u.waiting = s.form.settled answer fixed s.waiting := by
  by_cases hp : (s.form.get w.pending.load.level).phase = .loading w.pending.generation
  · cases hl : w.pending.load.level with
    | site => exact absurd hl (level_ne_site ho (waiting_of_take? h).2.1)
    | area => exact settled_areas ho hn h hl (by rw [hl] at hp; exact hp) hsrc hanswer hr
    | rack => exact settled_racks ho hn h hl (by rw [hl] at hp; exact hp) hr
  · exact settled_stale hn h hp hr

end Release

/-! ## Orders of releases -/

/-- The reply to the request of a call that waits: the one given for its number if it was sent before, and else the
one that is fixed for its parameter and value. -/
def replyTo (before : Nat) (given : Nat → Reply) (fixed : String → String → Reply) (w : Waiting) : Reply :=
  if w.request < before then given w.request else fixed w.pending.request.param w.pending.request.value

/-- Answers the request with this number, if it is held back. -/
def answerOne (src : Source σ) (answer : Waiting → Reply) (s : Session σ) (request : Nat) : Session σ :=
  match s.waiting.find? (·.request = request) with
  | none => s
  | some w => (s.handle src (.release request (answer w) none)).1

/-- Answers the requests with these numbers, in order. -/
def drain (src : Source σ) (answer : Waiting → Reply) (s : Session σ) (order : List Nat) : Session σ :=
  order.foldl (answerOne src answer) s

/-- A bound for the sections that waiting calls have left. -/
def backlog (s : Session σ) : Nat :=
  (s.waiting.map fun w => (Activity.waiting w.pending).rank).sum

/-- A call that is held back has fewer sections left than where its run began. -/
theorem backlog_of_ran {gap : Option Call} {number : Nat} {call : Call} {s t : Session σ} {a : Activity}
    {xs : List Section} (h : Ran src gap number call s a xs t) : gap = none → t.backlog ≤ s.backlog + a.rank := by
  induction h with
  | ends outcome => exact fun _ => Nat.le_refl _
  | holds hf => exact fun _ => by simp [backlog]
  | answers hf _ ih =>
    intro hg
    exact Nat.le_trans (ih hg) (Nat.add_le_add_left (Nat.le_of_lt (Activity.rank_resume_lt ..)) _)
  | own ha _ ih =>
    intro hg
    exact Nat.le_trans (ih hg) (Nat.add_le_add_left (Nat.le_of_lt (Activity.rank_advance_lt _ ha)) _)
  | gap => exact fun hg => by cases hg

/-- A call that is taken out is off the backlog. -/
theorem backlog_filter {ws : List Waiting} {w : Waiting} {keep : Waiting → Bool} (hw : w ∈ ws) (hk : keep w = false)
    (rank : Waiting → Nat) : ((ws.filter keep).map rank).sum + rank w ≤ (ws.map rank).sum := by
  have hsum := ((List.filter_append_perm keep ws).map rank).sum_eq
  have hgone : rank w ≤ ((ws.filter (!keep ·)).map rank).sum :=
    List.le_sum_of_mem (List.mem_map_of_mem (List.mem_filter.mpr ⟨hw, by simp [hk]⟩))
  rw [List.map_append, List.sum_append] at hsum
  omega

/-- A release takes a section off the backlog. -/
theorem backlog_release_lt {s t : Session σ} {w : Waiting} {i : Nat} (src : Source σ) (h : s.take? i = some (w, t))
    (reply : Reply) : (s.release src i reply).backlog < s.backlog := by
  obtain ⟨xs, hr⟩ := ran_release src h reply
  have hlt : (t.hand w reply).2.rank < (Activity.waiting w.pending).rank := Activity.rank_resume_lt ..
  have hle := backlog_of_ran hr rfl
  have ht : (t.hand w reply).1.backlog + (Activity.waiting w.pending).rank ≤ s.backlog := by
    obtain ⟨rfl, hw, hi⟩ := waiting_of_take? h
    exact backlog_filter hw (by simp [hi]) fun w => (Activity.waiting w.pending).rank
  omega

/-- Every session can be drained. -/
theorem exists_drained (src : Source σ) (answer : Waiting → Reply) (s : Session σ) :
    ∃ order, (s.drain src answer order).waiting = [] := by
  induction hk : s.backlog using Nat.strong_induction_on generalizing s with
  | _ k ih =>
    cases hw : s.waiting with
    | nil => exact ⟨[], hw⟩
    | cons w ws =>
      have hfind : s.waiting.find? (·.request = w.request) = some w := by simp [hw]
      have htake : s.take? w.request =
          some (w, { s with waiting := s.waiting.filter (·.request ≠ w.request) }) := by
        simp only [take?, hfind, Option.map_some]
      obtain ⟨order, ho⟩ := ih _ (hk ▸ backlog_release_lt src htake (answer w)) _ rfl
      refine ⟨w.request :: order, ?_⟩
      have hone : s.answerOne src answer w.request = s.release src w.request (answer w) := by
        simp only [answerOne, hfind, handle]
      rw [← ho, ← hone]
      rfl

theorem settled_drain {answer : Waiting → Reply} {fixed : String → String → Reply} {n : Nat}
    (hsrc : src.Agrees fixed)
    (hanswer : ∀ v, n ≤ v.request → answer v = fixed v.pending.request.param v.pending.request.value)
    (order : List Nat) {s : Session σ} {xs : List Section} (ho : s.pool.Ordered xs) (hn : s.Numbered)
    (hle : n ≤ s.requests.length) :
    (s.drain src answer order).form.settled answer fixed (s.drain src answer order).waiting =
      s.form.settled answer fixed s.waiting := by
  induction order generalizing s xs with
  | nil => rfl
  | cons i order ih =>
    have hd : s.drain src answer (i :: order) = (s.answerOne src answer i).drain src answer order := rfl
    rw [hd, answerOne]
    split
    · exact ih ho hn hle
    · next w hw =>
      have hh : Handled src s _ _ _ := handled s (.release i (answer w) none)
      generalize s.eventSections src _ = ys at hh
      generalize (s.handle src _).1 = u at hh ⊢
      have hreq := requests_of_handled hh
      refine (ih (ho.course (course_handled hh)) (hn.of_handled hh) ?_).trans ?_
      · rw [hreq, List.length_append]
        exact Nat.le_trans hle (Nat.le_add_right _ _)
      · cases hh with
        | missing h => simp [take?, hw] at h
        | release h hr =>
          have hwt := h
          simp only [take?, hw, Option.map_some, Option.some.injEq, Prod.mk.injEq] at hwt
          obtain ⟨rfl, -⟩ := hwt
          exact settled_release ho hn h hsrc (fun v hv => hanswer v (Nat.le_trans hle hv)) hr

/-- **The order of replies does not matter.** Take any session, with any calls that wait in it, and fix the reply to
each request that is held back and, by parameter and value, the replies to those that follow. Two orders of releases
that leave no call waiting leave the same form: the same selects, phases and last outcomes. -/
theorem drain_order_irrelevant (traffic : Traffic σ) (site area rack : Select) (endpoints : Endpoints)
    (events : List Event) (given : Nat → Reply) (fixed : String → String → Reply) (o₁ o₂ : List Nat)
    (hsrc : src.Agrees fixed) :
    let s := (fresh traffic site area rack endpoints).after src₀ events
    let answer := replyTo s.requests.length given fixed
    (s.drain src answer o₁).waiting = [] → (s.drain src answer o₂).waiting = [] →
      (s.drain src answer o₁).form = (s.drain src answer o₂).form := by
  intro s answer h₁ h₂
  have ho := (fresh_ordered traffic site area rack endpoints).course
    (course_history src₀ (fresh traffic site area rack endpoints) events)
  have hn₀ : (fresh traffic site area rack endpoints).Numbered :=
    ⟨fun w hw => absurd hw List.not_mem_nil, List.nodup_nil⟩
  have hn : s.Numbered := hn₀.after src₀ events
  have hanswer : ∀ v, s.requests.length ≤ v.request →
      answer v = fixed v.pending.request.param v.pending.request.value := fun v hv => if_neg (Nat.not_lt.mpr hv)
  have hs : ∀ o, (s.drain src answer o).waiting = [] →
      (s.drain src answer o).form = s.form.settled answer fixed s.waiting := fun o h => by
    rw [← settled_drain hsrc hanswer o ho hn (Nat.le_refl _), h, Form.settled_nil]
  rw [hs o₁ h₁, hs o₂ h₂]

/-- Areas with one to restore and racks are waited for, and the restored area asks for other racks. The racks come
before the areas or after them: the calls end differently, the form does not. -/
theorem drain_before_or_after :
    let s : Session Unit := (fresh { source := () } ((Select.new "id_site").withValue "5")
      ((Select.new "id_area").withData Select.currentValueKey "12") (.new "id_rack")
      ⟨some "/areas/", some "/racks/"⟩).after .holding [.start .restore none, .start (.load .rack "9" false) none]
    let answer := replyTo s.requests.length (fun _ => .ok [⟨.number 12, "A"⟩]) fun _ _ => .ok [⟨.number 20, "B"⟩]
    let t₁ := s.drain .holding answer [0, 1, 2]
    let t₂ := s.drain .holding answer [1, 0, 2]
    s.waiting.length = 2 ∧ t₁.waiting = [] ∧ t₂.waiting = [] ∧ t₁.ended ≠ t₂.ended ∧ t₁.form = t₂.form := by
  intro s answer t₁ t₂
  have hs : s.waiting.length = 2 := by decide +kernel
  have h₁ : t₁.waiting = [] := by decide +kernel
  have h₂ : t₂.waiting = [] := by decide +kernel
  have hne : t₁.ended ≠ t₂.ended := by decide +kernel
  refine ⟨hs, h₁, h₂, hne, drain_order_irrelevant _ _ _ _ _ _ _ _ _ _ (fun st r reply st' h => ?_) h₁ h₂⟩
  cases h

end Session

end LinkedSelect
