import LinkedSelect.Proofs.Settling

/-!
# Replies that come at once or later

`Activity.play` runs a call to its end over a form when every request is answered at once, by parameter and value. A
call that is run by a session may be held back instead; that makes no difference in the end: what the form settles to
after the run is what it settles to after the play (`Session.settled_run`).

What a call comes to that way can be said in closed form: a load of the racks is a reload of that one field
(`Activity.play_ready_rack`), and a load of the areas closes the racks, reloads the areas and then, under a restored
area, the racks (`Activity.play_ready_area`).
-/

namespace LinkedSelect

namespace Activity

variable {fixed : String → String → Reply} {f : Form} {a : Activity}

/-- The form after a call has gone on from here to its end, every request being answered at once. -/
def play (fixed : String → String → Reply) (f : Form) (a : Activity) : Form :=
  if h : a.canAdvance = true then
    have := rank_advance_lt f h
    play fixed (a.advance f).1 (a.advance f).2
  else
    match a with
    | .waiting p =>
      have := rank_resume_lt f p (fixed p.request.param p.request.value)
      play fixed (resume f p (fixed p.request.param p.request.value)).1
        (resume f p (fixed p.request.param p.request.value)).2
    | _ => f
termination_by a.rank

theorem play_own (h : a.canAdvance = true) : a.play fixed f = (a.advance f).2.play fixed (a.advance f).1 := by
  rw [play, dif_pos h]

theorem play_waiting (p : Pending) : (waiting p).play fixed f =
    (resume f p (fixed p.request.param p.request.value)).2.play fixed
      (resume f p (fixed p.request.param p.request.value)).1 := by
  rw [play, dif_neg (by simp [canAdvance])]

theorem play_ended (outcome : Outcome) : (ended outcome).play fixed f = f := by
  rw [play, dif_neg (by simp [canAdvance])]

/-- A call whose load goes on with no other leaves the form as it is. -/
theorem play_returned_last {load : Load} {outcome : Outcome} (h : load.next? outcome = none) :
    (returned load outcome).play fixed f = f := by
  rw [play_own rfl]
  simp only [advance, goOn, h]
  exact play_ended _

/-- A call whose load goes on with another one loads that. -/
theorem play_returned_next {load next : Load} {outcome : Outcome} (h : load.next? outcome = some next) :
    (returned load outcome).play fixed f = (ready next).play fixed f := by
  rw [play_own rfl]
  simp only [advance, goOn, h]

end Activity

/-! ## Loads -/

namespace Form

/-- The racks are loaded for an area. -/
def reloadRacks (fixed : String → String → Reply) (value : String) (retain : Bool) (f : Form) : Form :=
  f.modify .rack (·.reload (fixed "area" value) value retain)

/-- The racks are loaded for the area that was restored, if one was. -/
def reloadBelow (fixed : String → String → Reply) (retain : Bool) (f : Form) : Form :=
  if f.area.select.value = "" then f else f.reloadRacks fixed f.area.select.value retain

/-- The areas are loaded for a site, and then the racks for the area that was restored. -/
def reloadAreas (fixed : String → String → Reply) (value : String) (retain : Bool) (f : Form) : Form :=
  reloadBelow fixed retain { f with area := f.area.reload (fixed "site" value) value retain, rack := f.rack.disable }

variable {fixed : String → String → Reply} {f : Form}

theorem reloadBelow_of_empty (h : f.area.select.value = "") (retain : Bool) : f.reloadBelow fixed retain = f :=
  if_pos h

theorem reloadBelow_of_ne (h : f.area.select.value ≠ "") (retain : Bool) :
    f.reloadBelow fixed retain = f.reloadRacks fixed f.area.select.value retain :=
  if_neg h

end Form

namespace Activity

variable {fixed : String → String → Reply} {f : Form} {load : Load}

/-- A load of the racks. -/
theorem play_ready_rack (hl : load.level = .rack) : (ready load).play fixed f = f.reload fixed load := by
  rw [play_own rfl, Form.reload]
  simp only [advance]
  cases hb : f.beginLoad load with
  | mk g begun =>
    cases begun with
    | ended outcome => exact play_returned_last (Load.next?_rack hl outcome)
    | waits p =>
      obtain ⟨_, hph, _⟩ := Form.of_beginLoad_rack hl hb
      have hp := load_of_beginLoad hb
      simp only [play_waiting]
      rw [resume_of_loading (by rw [hp, hl]; exact hph), hp]
      exact play_returned_last (Load.next?_rack hl _)

/-- When areas have come, the racks of the one that was restored are loaded. -/
theorem play_returned_area (hl : load.level = .area) (reply : Reply) (wanted : Option String) :
    (returned load (Field.outcomeOf reply wanted)).play fixed (f.modify .area (·.resolve reply wanted)) =
      (f.modify .area (·.resolve reply wanted)).reloadBelow fixed load.retain := by
  cases hn : load.next? (Field.outcomeOf reply wanted) with
  | none =>
    have hv : (f.modify .area (·.resolve reply wanted)).area.select.value = "" :=
      congrArg (·.getD "") (Load.hit?_of_next?_area hl hn)
    rw [play_returned_last hn, Form.reloadBelow_of_empty hv]
  | some next =>
    obtain ⟨hr, hhit⟩ := Load.of_next?_area hl hn
    have hv : (f.modify .area (·.resolve reply wanted)).area.select.value = next.filter := congrArg (·.getD "") hhit
    have hne : next.filter ≠ "" := (Select.hit?_eq_some hhit).2
    rw [play_returned_next hn, play_ready_rack hr, Form.reload_eq hr (Load.isOutdated_next? hl hn f),
      Load.retain_of_next? hn, Form.reloadBelow_of_ne (hv ▸ hne), hv]
    rfl

/-- A load of the areas, and of the racks of the one that is restored. -/
theorem play_ready_area (value : String) (retain : Bool) :
    (ready ⟨.area, value, retain, none⟩).play fixed f = f.reloadAreas fixed value retain := by
  have ho : f.isOutdated ⟨.area, value, retain, none⟩ .site = false := rfl
  rw [play_own rfl, Form.reloadAreas]
  simp only [advance]
  rcases Form.beginLoad_eq rfl ho with ⟨he, hb⟩ | ⟨endpoint, he, hb⟩
  · have harea : f.area.reload (fixed "site" value) value retain = f.area.decline := Form.get_reload_of_none he _ _
    rw [hb, harea, Form.reloadBelow_of_empty rfl]
    exact play_returned_last (Load.next?_disabled _)
  · have harea : f.area.reload (fixed "site" value) value retain =
        f.area.beginLoad.resolve (fixed "site" value) (if retain then f.area.retained? else none) :=
      Form.get_reload_of_some he _ _
    rw [hb, harea]
    simp only [play_waiting]
    rw [resume_of_loading (by rfl)]
    exact play_returned_area rfl _ _

end Activity

/-! ## Runs -/

/-- The reply to the request of a waiting call, by parameter and value. -/
def Waiting.replyBy (fixed : String → String → Reply) (w : Waiting) : Reply :=
  fixed w.pending.request.param w.pending.request.value

theorem Waiting.replyBy_eq (fixed : String → String → Reply) (w : Waiting) :
    w.replyBy fixed = fixed w.pending.request.param w.pending.request.value := rfl

namespace Session

variable {σ : Type} {src : Source σ} {s t : Session σ} {xs ys : List Section} {number : Nat} {call : Call}
variable {a : Activity} {fixed : String → String → Reply}

/-- One more request leaves those that wait with numbers of their own. -/
theorem Numbered.sent (hn : s.Numbered) (request : Request) (source : σ) (form : Form) :
    Numbered { s with source, requests := s.requests ++ [request], form } where
  request_lt w hw := by
    rw [List.length_append]
    exact Nat.lt_succ_of_lt (hn.request_lt w hw)
  nodup := hn.nodup

/-- A call that is held back can be taken out again. -/
theorem take?_held (number : Nat) (call : Call) (hn : s.Numbered) (p : Pending) (source : σ) :
    take? { s with
        source
        requests := s.requests ++ [p.request]
        waiting := s.waiting ++ [⟨number, call, s.requests.length, p⟩] } s.requests.length =
      some (⟨number, call, s.requests.length, p⟩, { s with source, requests := s.requests ++ [p.request] }) := by
  have hne : ∀ w ∈ s.waiting, w.request ≠ s.requests.length := fun w hw => Nat.ne_of_lt (hn.request_lt w hw)
  have hfind : s.waiting.find? (·.request = s.requests.length) = none :=
    List.find?_eq_none.mpr fun w hw => by simpa using hne w hw
  have hfilter : s.waiting.filter (·.request ≠ s.requests.length) = s.waiting :=
    List.filter_eq_self.mpr fun w hw => by simpa using hne w hw
  simp only [take?, List.find?_append, hfind, List.filter_append, hfilter]
  simp

/-- The order of calls after a section of the one that runs. -/
theorem ordered_section {x : Section} (ho : (s.poolWith {x.entry}).Ordered xs) (hx : x.Runs) (hb : x.before = s.form)
    (hf : t.form = x.after) (hs : t.started = s.started) (hw : t.waiting = s.waiting) :
    (t.poolWith {x.exit}).Ordered (xs ++ [x]) := by
  have h := ho.act hx hb (threads_cons s x.entry 0)
  simp only [poolWith, hf, hs, hw, ← Multiset.singleton_add, Multiset.zero_add] at h ⊢
  exact h

/-- The order of calls after a reply to the one that runs. -/
theorem ordered_answered {p : Pending} (ho : (s.poolWith {⟨number, call, .waiting p⟩}).Ordered xs) (source : σ)
    (reply : Reply) :
    (poolWith { s with
        source
        requests := s.requests ++ [p.request]
        form := (Activity.resume s.form p reply).1 } {⟨number, call, (Activity.resume s.form p reply).2⟩}).Ordered
      (xs ++ [⟨number, call, s.form, .waiting p, some reply, (Activity.resume s.form p reply).1,
        (Activity.resume s.form p reply).2⟩]) :=
  ordered_section ho .reply rfl rfl rfl rfl

/-- **Whether a call is answered at once or held back makes no difference in the end.** -/
theorem settled_run (hsrc : src.Agrees fixed) (ho : (s.poolWith {⟨number, call, a⟩}).Ordered xs) (hn : s.Numbered)
    (hr : Ran src none number call s a ys t) :
    t.form.settled (Waiting.replyBy fixed) fixed t.waiting =
      (a.play fixed s.form).settled (Waiting.replyBy fixed) fixed s.waiting := by
  induction hk : a.rank using Nat.strong_induction_on generalizing a s t xs ys with
  | _ k ih =>
    have ht := ho.course (course_ran hr 0 fun u hu => absurd hu (Multiset.notMem_zero u))
    have htn := hn.of_ran hr
    cases hr with
    | ends outcome => rw [Activity.play_ended]
    | own ha hr =>
      have ho' : (poolWith { s with form := (a.advance s.form).1 } {⟨number, call, (a.advance s.form).2⟩}).Ordered _ :=
        ordered_section ho (.own ha) rfl rfl rfl rfl
      rw [Activity.play_own ha]
      exact ih _ (hk ▸ Activity.rank_advance_lt s.form ha) ho' ⟨hn.request_lt, hn.nodup⟩ hr rfl
    | answers hf hr =>
      obtain rfl := hsrc _ _ _ _ hf
      rw [Activity.play_waiting]
      exact ih _ (hk ▸ Activity.rank_resume_lt ..) (ordered_answered ho _ _) (hn.sent _ _ _) hr rfl
    | @holds _ _ _ _ p source hf =>
      -- the call may be released at once, which keeps what the form settles to
      have htake := take?_held number call hn p source
      obtain ⟨zs, hz⟩ := ran_release src htake (Waiting.replyBy fixed _)
      rw [← settled_release ht htn htake hsrc (fun v _ => v.replyBy_eq fixed) hz, Activity.play_waiting]
      exact ih _ (hk ▸ Activity.rank_resume_lt ..) (ordered_answered ho source _) (hn.sent _ _ _) hz rfl

/-- When all requests were answered, a form is what it settles to. -/
theorem form_of_drained {order : List Nat} (hsrc : src.Agrees fixed) (ho : s.pool.Ordered xs) (hn : s.Numbered)
    (h : (s.drain src (Waiting.replyBy fixed) order).waiting = []) :
    (s.drain src (Waiting.replyBy fixed) order).form = s.form.settled (Waiting.replyBy fixed) fixed s.waiting := by
  rw [← settled_drain hsrc (fun v _ => v.replyBy_eq fixed) order ho hn (Nat.zero_le _), h, Form.settled_nil]

end Session

end LinkedSelect
