import LinkedSelect.Proofs.Erasure
import LinkedSelect.Proofs.Forgetting
import LinkedSelect.Proofs.Gap

/-!
# Restoring a page, from its start to its end

What a page comes to when it is restored is a function of the endpoints, of the site, of the area and the rack that are
to be restored, and of the replies (`Endpoints.restored`).

* `Activity.sent` lists the requests of a call whose requests are answered at once, as `Activity.play` says what form it
  leaves; for the call that restores both are those of the reference (`Activity.sent_restore`, `Form.sights_play`).
* While the call is under way it waits for the next of these requests, or it has ended and left that form
  (`Session.Underway`). Its first load has begun a new generation of the areas and of the racks, so that the replies to
  earlier requests are too late, and each reply to the request that it waits for brings it on
  (`Session.Underway.release`).
* `Session.restore_end_to_end`: when the call has ended, the page is what the reference says, whatever loads were under
  way before, and earlier replies do not change it.
-/

namespace LinkedSelect

/-! ## The reference -/

/-- A value that is to be restored, if it is not empty and one of these choices has it. -/
def offered? (choices : List Choice) (wanted : String) : Option String :=
  if wanted ≠ "" ∧ ∃ c ∈ choices, c.id.display = wanted then some wanted else none

/-- A field that shows a reply, with the value restored that was wanted if the reply offers it. -/
def Sight.restored (wanted : String) : Reply → Sight
  | .ok choices =>
    ⟨(offered? choices wanted).getD "", false, .placeholder :: choices.map .ofChoice, .populated,
      some (.populated choices.length (offered? choices wanted))⟩
  | .error e => ⟨"", false, [.placeholder], .populated, some (.failed e.failure)⟩

/-- What restoring comes to: the requests that are sent, and what the areas and the racks look like in the end. -/
structure Restored where
  requests : List Request
  area : Sight
  rack : Sight

/-- What restoring comes to over these endpoints, for a site and the area and the rack that are to be restored, when
replies are fixed by parameter and value. -/
def Endpoints.restored (e : Endpoints) (fixed : String → String → Reply) (site area rack : String) : Restored :=
  if site = "" then ⟨[], .closed none, .closed none⟩
  else
    match e.areas.filter (· ≠ "") with
    | none => ⟨[], .closed (some .disabled), .closed none⟩
    | some areas =>
      let sight := Sight.restored area (fixed "site" site)
      if sight.value = "" then ⟨[⟨areas, "site", site⟩], sight, .closed none⟩
      else
        match e.racks.filter (· ≠ "") with
        | none => ⟨[⟨areas, "site", site⟩], sight, .closed (some .disabled)⟩
        | some racks =>
          ⟨[⟨areas, "site", site⟩, ⟨racks, "area", sight.value⟩], sight, .restored rack (fixed "area" sight.value)⟩

/-! ## One field -/

/-- A value is restored if it is not empty and one of the choices has it. -/
theorem Select.hit?_some (choices : List Choice) (wanted : String) :
    hit? choices (some wanted) = offered? choices wanted := by
  refine Option.ext fun v => ?_
  rw [hit?_eq_some_iff, offered?]
  split
  · next h =>
    simp only [Option.some.injEq]
    constructor
    · exact fun hv => hv.1
    · rintro rfl
      exact ⟨rfl, h⟩
  · next h =>
    simp only [Option.some.injEq, reduceCtorEq, iff_false]
    rintro ⟨rfl, hv⟩
    exact h hv

namespace Field

/-- A value that is to be restored is not empty. -/
theorem hit?_retained? (x : Field) (choices : List Choice) :
    Select.hit? choices x.retained? = offered? choices x.select.currentValue := by
  unfold retained?
  split
  · next h => simp [Select.hit?, offered?, h]
  · exact Select.hit?_some _ _

theorem sight_resolve_retained? (x y : Field) (reply : Reply) :
    (x.resolve reply y.retained?).sight = .restored y.select.currentValue reply := by
  cases reply with
  | ok choices =>
    simp only [sight, resolve, choicesOf, outcomeOf, Select.populate, Select.withDisabled, hit?_retained?,
      Sight.restored, Select.entriesOf]
  | error e =>
    simp only [sight, resolve, choicesOf, outcomeOf, Select.populate, Select.withDisabled, Select.hit?_nil,
      Sight.restored, Select.entriesOf, List.map_nil, Option.getD_none]

/-- A load that restores, for a value of the parent. -/
theorem sight_reload (reply : Reply) {filter : String} (h : filter ≠ "") (x : Field) :
    (x.reload reply filter true).sight =
      match x.endpoint with
      | none => .closed (some .disabled)
      | some _ => .restored x.select.currentValue reply := by
  rw [reload, if_neg h]
  cases x.endpoint with
  | none => rfl
  | some endpoint => exact sight_resolve_retained? x.beginLoad x reply

end Field

/-- The areas after they were loaded for a site, and the racks after they were closed and, under a restored area,
loaded. -/
theorem Form.fields_reloadAreas (f : Form) (fixed : String → String → Reply) (value : String) (retain : Bool) :
    let area := f.area.reload (fixed "site" value) value retain
    (f.reloadAreas fixed value retain).site = f.site ∧ (f.reloadAreas fixed value retain).area = area ∧
      (f.reloadAreas fixed value retain).rack =
        if area.select.value = "" then f.rack.disable
        else f.rack.disable.reload (fixed "area" area.select.value) area.select.value retain := by
  intro area
  simp only [reloadAreas, reloadBelow]
  split <;> exact ⟨rfl, rfl, rfl⟩

/-! ## A call whose requests are answered at once -/

namespace Activity

variable {fixed : String → String → Reply} {f : Form} {a : Activity} {load : Load}

/-- The requests that a call sends from here to its end, every one being answered at once. -/
def sent (fixed : String → String → Reply) (f : Form) (a : Activity) : List Request :=
  if h : a.canAdvance = true then
    have := rank_advance_lt f h
    sent fixed (a.advance f).1 (a.advance f).2
  else
    match a with
    | .waiting p =>
      have := rank_resume_lt f p (fixed p.request.param p.request.value)
      p.request :: sent fixed (resume f p (fixed p.request.param p.request.value)).1
        (resume f p (fixed p.request.param p.request.value)).2
    | _ => []
termination_by a.rank

theorem sent_own (h : a.canAdvance = true) : a.sent fixed f = (a.advance f).2.sent fixed (a.advance f).1 := by
  rw [sent, dif_pos h]

theorem sent_waiting (p : Pending) : (waiting p).sent fixed f =
    p.request :: (resume f p (fixed p.request.param p.request.value)).2.sent fixed
      (resume f p (fixed p.request.param p.request.value)).1 := by
  rw [sent, dif_neg (by simp [canAdvance])]

theorem sent_ended (outcome : Outcome) : (ended outcome).sent fixed f = [] := by
  rw [sent, dif_neg (by simp [canAdvance])]

theorem sent_returned_last {outcome : Outcome} (h : load.next? outcome = none) :
    (returned load outcome).sent fixed f = [] := by
  rw [sent_own rfl]
  simp only [advance, goOn, h]
  exact sent_ended _

theorem sent_returned_next {next : Load} {outcome : Outcome} (h : load.next? outcome = some next) :
    (returned load outcome).sent fixed f = (ready next).sent fixed f := by
  rw [sent_own rfl]
  simp only [advance, goOn, h]

theorem sent_siteless (retained : Bool) : (siteless retained).sent fixed f = [] := by
  rw [sent_own rfl]
  exact sent_ended _

end Activity

/-- The request that a load of a level asks for a value of the parent, if it asks. -/
def Form.requestsFor (f : Form) (l parent : Level) (value : String) : List Request :=
  (f.endpoint? l value).toList.map (⟨·, parent.name, value⟩)

theorem Form.requestsFor_empty (f : Form) (l parent : Level) : f.requestsFor l parent "" = [] := rfl

theorem Form.requestsFor_of_ne {value : String} (h : value ≠ "") (f : Form) (l parent : Level) :
    f.requestsFor l parent value = (f.get l).endpoint.toList.map (⟨·, parent.name, value⟩) := by
  rw [requestsFor, endpoint?, if_neg h]

namespace Activity

variable {fixed : String → String → Reply} {f : Form} {load : Load}

theorem sent_ready_rack (hl : load.level = .rack) (ho : f.isOutdated load .area = false) :
    (ready load).sent fixed f = f.requestsFor .rack .area load.filter := by
  rw [sent_own rfl, Form.requestsFor, ← hl]
  simp only [advance]
  rcases Form.beginLoad_eq (by rw [hl]; rfl) ho with ⟨he, hb⟩ | ⟨endpoint, he, hb⟩
  · rw [hb, he]
    exact sent_returned_last (Load.next?_disabled _)
  · rw [hb, he]
    simp only [sent_waiting]
    exact congrArg _ (sent_returned_last (Load.next?_rack hl _))

/-- When areas have come, the racks of the one that was restored are asked for. -/
theorem sent_returned_area (hl : load.level = .area) (reply : Reply) (wanted : Option String) :
    (returned load (Field.outcomeOf reply wanted)).sent fixed (f.modify .area (·.resolve reply wanted)) =
      f.requestsFor .rack .area (f.area.resolve reply wanted).select.value := by
  cases hn : load.next? (Field.outcomeOf reply wanted) with
  | none =>
    have hv : (f.area.resolve reply wanted).select.value = "" := congrArg (·.getD "") (Load.hit?_of_next?_area hl hn)
    rw [sent_returned_last hn, hv, Form.requestsFor_empty]
  | some next =>
    obtain ⟨hr, hhit⟩ := Load.of_next?_area hl hn
    have hv : (f.area.resolve reply wanted).select.value = next.filter := congrArg (·.getD "") hhit
    rw [sent_returned_next hn, sent_ready_rack hr (Load.isOutdated_next? hl hn f), hv]
    rfl

/-- A load of the areas asks for them, and then for the racks of the one that is restored. -/
theorem sent_ready_area (value : String) (retain : Bool) :
    (ready ⟨.area, value, retain, none⟩).sent fixed f = f.requestsFor .area .site value ++
      f.requestsFor .rack .area (f.area.reload (fixed "site" value) value retain).select.value := by
  have ho : f.isOutdated ⟨.area, value, retain, none⟩ .site = false := rfl
  rw [sent_own rfl, Form.requestsFor]
  simp only [advance]
  rcases Form.beginLoad_eq rfl ho with ⟨he, hb⟩ | ⟨endpoint, he, hb⟩
  · have harea : f.area.reload (fixed "site" value) value retain = f.area.decline := Form.get_reload_of_none he _ _
    rw [hb, harea, show f.endpoint? .area value = none from he]
    exact sent_returned_last (Load.next?_disabled _)
  · have harea : f.area.reload (fixed "site" value) value retain =
        f.area.beginLoad.resolve (fixed "site" value) (if retain then f.area.retained? else none) :=
      Form.get_reload_of_some he _ _
    rw [hb, harea, show f.endpoint? .area value = some endpoint from he]
    simp only [sent_waiting]
    rw [resume_of_loading (by rfl)]
    exact congrArg _ (sent_returned_area rfl _ _)

/-- A call that restores the page, if its requests are answered at once, sends the requests and leaves the form that the
reference says. -/
theorem played_restore (fixed : String → String → Reply) {e : Endpoints}
    (ha : f.area.endpoint = e.areas.filter (· ≠ "")) (hr : f.rack.endpoint = e.racks.filter (· ≠ "")) :
    let goal := e.restored fixed f.site.select.value f.area.select.currentValue f.rack.select.currentValue
    let g := (entered .restore).play fixed f
    (entered .restore).sent fixed f = goal.requests ∧ g.site = f.site ∧ g.area.sight = goal.area ∧
      g.rack.sight = goal.rack := by
  intro goal g
  have hsent : (entered .restore).sent fixed f = if f.site.select.value = "" then []
      else (ready ⟨.area, f.site.select.value, true, none⟩).sent fixed f := by
    rw [sent_own rfl]
    simp only [advance, enter]
    split
    · exact sent_siteless _
    · rfl
  have hplay : g = _ := play_restore
  simp only [goal, Endpoints.restored]
  by_cases hs : f.site.select.value = ""
  · rw [if_pos hs] at hsent hplay
    rw [if_pos hs, hsent, hplay]
    cases f.area.retained?.isSome <;> exact ⟨rfl, rfl, rfl, rfl⟩
  · rw [if_neg hs, sent_ready_area, Form.requestsFor_of_ne hs, show (f.get .area).endpoint = _ from ha] at hsent
    rw [if_neg hs] at hplay
    obtain ⟨hsite, harea, hrack⟩ := f.fields_reloadAreas fixed f.site.select.value true
    have hsight := Field.sight_reload (fixed "site" f.site.select.value) hs f.area
    rw [ha] at hsight
    rw [if_neg hs, hsent, hplay, hsite, harea, hrack]
    generalize f.area.reload (fixed "site" f.site.select.value) f.site.select.value true = area at hsight ⊢
    have hvalue : area.select.value = area.sight.value := rfl
    rw [hvalue, hsight]
    cases e.areas.filter (· ≠ "") with
    | none => exact ⟨rfl, rfl, rfl, rfl⟩
    | some areas =>
      dsimp only
      generalize Sight.restored f.area.select.currentValue (fixed "site" f.site.select.value) = sight
      by_cases hv : sight.value = ""
      · rw [if_pos hv, if_pos hv, hv, Form.requestsFor_empty]
        exact ⟨rfl, rfl, rfl, rfl⟩
      · have hracks := Field.sight_reload (fixed "area" sight.value) hv f.rack.disable
        rw [show f.rack.disable.endpoint = _ from hr] at hracks
        rw [if_neg hv, if_neg hv, Form.requestsFor_of_ne hv, show (f.get .rack).endpoint = _ from hr, hracks]
        cases e.racks.filter (· ≠ "") with
        | none => exact ⟨rfl, rfl, rfl, rfl⟩
        | some racks => exact ⟨rfl, rfl, rfl, rfl⟩

end Activity

/-! ## The call in a session -/

/-- The request of this waiting call was the last one; and if its requests are answered at once from here on, the call
leaves this form, and then these are all the requests that were sent. -/
structure Waiting.Leads {σ : Type} (w : Waiting) (fixed : String → String → Reply) (s : Session σ) (goal : Form)
    (requests : List Request) : Prop where
  form : (Activity.waiting w.pending).play fixed s.form = goal
  sent : ∃ earlier, earlier.length = w.request ∧ s.requests = earlier ++ [w.pending.request] ∧
    requests = earlier ++ (Activity.waiting w.pending).sent fixed s.form

/-- Replies to requests, each given by its number, with no call in between. -/
def Event.replies (late : List (Nat × Reply)) : List Event :=
  late.map fun d => .release d.1 d.2 none

namespace Session

variable {σ : Type} {src : Source σ} {s t u : Session σ} {number : Nat} {call : Call} {a : Activity} {xs : List Section}
  {fixed : String → String → Reply} {goal : Form} {requests : List Request} {n i k : Nat} {w : Waiting} {reply : Reply}

/-- A call that runs has ended as if its requests had been answered at once, or it waits and leads there. -/
theorem leads_of_ran (hsrc : src.Agrees fixed) (h : Ran src none number call s a xs t) :
    t.waiting = s.waiting ∧ t.form = a.play fixed s.form ∧ t.requests = s.requests ++ a.sent fixed s.form ∨
      ∃ w, t.waiting = s.waiting ++ [w] ∧ w.number = number ∧ s.requests.length ≤ w.request ∧
        w.Leads fixed t (a.play fixed s.form) (s.requests ++ a.sent fixed s.form) := by
  generalize hgap : none = gap at h
  induction h with
  | ends outcome =>
    rw [Activity.play_ended, Activity.sent_ended, List.append_nil]
    exact Or.inl ⟨rfl, rfl, rfl⟩
  | @holds gap number call s p source hf =>
    exact Or.inr ⟨⟨number, call, s.requests.length, p⟩, rfl, rfl, Nat.le_refl _, rfl, _, rfl, rfl, rfl⟩
  | @answers gap number call s t p reply source xs hf _ ih =>
    obtain rfl := hsrc _ _ _ _ hf
    rw [Activity.play_waiting, Activity.sent_waiting, List.append_cons]
    rcases ih hgap with h | ⟨w, hw, hn, hle, hl⟩
    · exact Or.inl h
    · refine Or.inr ⟨w, hw, hn, ?_, hl⟩
      rw [List.length_append] at hle
      exact Nat.le_trans (Nat.le_succ _) hle
  | own ha _ ih =>
    rw [Activity.play_own ha, Activity.sent_own ha]
    exact ih hgap
  | gap => cases hgap

/-- The call `n` has ended, has left the form `goal` and these are the requests that were sent; or it waits for the
request `i` and leads there. The other calls that wait are too late. -/
structure Underway (fixed : String → String → Reply) (n : Nat) (goal : Form) (requests : List Request) (i : Nat)
    (s : Session σ) : Prop where
  late : ∀ w ∈ s.waiting, w.number ≠ n → w.pending.generation < (s.form.get w.pending.load.level).generation
  own : ((∀ w ∈ s.waiting, w.number ≠ n) ∧ s.form = goal ∧ s.requests = requests ∧ i = requests.length) ∨
    ∃ w ∈ s.waiting, w.number = n ∧ w.request = i ∧ w.Leads fixed s goal requests

namespace Underway

/-- The request that the call waits for is the next one. -/
theorem getElem?_of_leads {w : Waiting} (h : w.Leads fixed s goal requests) :
    requests[w.request]? = some w.pending.request := by
  obtain ⟨_, earlier, hlen, _, rfl⟩ := h
  rw [← hlen, Activity.sent_waiting, List.getElem?_append_right (Nat.le_refl _), Nat.sub_self]
  rfl

/-- When no request is left, the call has ended. -/
theorem ended_of_length_le (h : s.Underway fixed n goal requests i) (hi : requests.length ≤ i) :
    ∀ w ∈ s.waiting, w.number ≠ n := by
  rcases h.own with ⟨hno, _⟩ | ⟨w, _, _, rfl, hl⟩
  · exact hno
  · have := getElem?_of_leads hl
    rw [List.getElem?_eq_none hi] at this
    cases this

/-- While requests are left, the call waits. -/
theorem waits_of_length_lt (h : s.Underway fixed n goal requests i) (hi : i < requests.length) :
    ∃ w ∈ s.waiting, w.number = n ∧ w.request = i := by
  rcases h.own with ⟨_, _, _, he⟩ | ⟨w, hw, hn, hwi, _⟩
  · exact absurd he (Nat.ne_of_lt hi)
  · exact ⟨w, hw, hn, hwi⟩

/-- A call that runs keeps what it leads to, if the other calls that wait are too late after it. -/
theorem of_ran (hsrc : src.Agrees fixed) (hr : Ran src none n call s a xs t) (hg : a.play fixed s.form = goal)
    (hs : s.requests ++ a.sent fixed s.form = requests) (hown : ∀ w ∈ s.waiting, w.number ≠ n)
    (hlate : ∀ w ∈ s.waiting, w.pending.generation < (t.form.get w.pending.load.level).generation) :
    ∃ j, s.requests.length ≤ j ∧ t.Underway fixed n goal requests j := by
  subst hg hs
  rcases leads_of_ran hsrc hr with ⟨hw, hf, hq⟩ | ⟨w, hw, hn, hle, hl⟩
  · refine ⟨_, ?_, fun v hv _ => ?_, Or.inl ⟨?_, hf, hq, rfl⟩⟩
    · rw [List.length_append]
      exact Nat.le_add_right _ _
    · rw [hw] at hv
      exact hlate v hv
    · rw [hw]
      exact hown
  · refine ⟨_, hle, fun v hv hvn => ?_, Or.inr ⟨w, ?_, hn, rfl, hl⟩⟩
    · rw [hw] at hv
      rcases List.mem_append.mp hv with hv | hv
      · exact hlate v hv
      · rw [List.mem_singleton.mp hv] at hvn
        exact absurd hn hvn
    · rw [hw]
      exact List.mem_append_right _ (List.mem_singleton_self w)

/-- A reply to another call comes too late and keeps what the call leads to. -/
theorem release_late (h : s.Underway fixed n goal requests i) (ho : s.pool.Ordered xs) (hnum : s.Numbered)
    (ht : s.take? k = some (w, t)) (hwn : w.number ≠ n) (src : Source σ) (reply : Reply) :
    (s.release src k reply).Underway fixed n goal requests i := by
  obtain ⟨_, hw, hwk⟩ := waiting_of_take? ht
  have hp : (s.form.get w.pending.load.level).phase ≠ .loading w.pending.generation := fun hp =>
    Nat.ne_of_lt (h.late w hw hwn) (ho.timely _ _ hp)
  obtain ⟨hf, hwaiting⟩ := release_stale src ht hp reply
  have hreq := requests_release_stale src ht hp reply
  refine ⟨fun v hv hvn => ?_, ?_⟩
  · rw [hwaiting] at hv
    rw [hf]
    exact h.late v (List.mem_of_mem_filter hv) hvn
  · rw [hwaiting, hf, hreq]
    rcases h.own with ⟨hno, hdone⟩ | ⟨v, hv, hvn, hvi, hl⟩
    · exact Or.inl ⟨fun v hv => hno v (List.mem_of_mem_filter hv), hdone⟩
    · have hvk : v.request ≠ k := fun hvk => by
        rw [eq_of_request_eq hnum hv hw (hvk.trans hwk.symm)] at hvn
        exact hwn hvn
      refine Or.inr ⟨v, List.mem_filter.mpr ⟨hv, by simpa using hvk⟩, hvn, hvi, ?_, ?_⟩
      · rw [hf]
        exact hl.form
      · rw [hf, hreq]
        exact hl.sent

/-- A reply to the request that the call waits for brings it on. -/
theorem release_own (h : s.Underway fixed n goal requests i) (hsrc : src.Agrees fixed) (ho : s.pool.Ordered xs)
    (ht : s.take? k = some (w, t)) (hwn : w.number = n)
    (hreply : i ≤ k → ∀ q, requests[k]? = some q → reply = fixed q.param q.value) :
    ∃ j, i < j ∧ (s.release src k reply).Underway fixed n goal requests j := by
  obtain ⟨rfl, hw, rfl⟩ := waiting_of_take? ht
  have hsame : ∀ v ∈ s.waiting, v.number = n → v = w := fun v hv hvn =>
    List.inj_on_of_nodup_map (nodup_numbers ho) hv hw (hvn.trans hwn.symm)
  rcases h.own with ⟨hno, _⟩ | ⟨v, hv, hvn, rfl, hl⟩
  · exact absurd hwn (hno w hw)
  · obtain rfl := hsame v hv hvn
    obtain rfl := hreply (Nat.le_refl _) _ (getElem?_of_leads hl)
    obtain ⟨hform, earlier, hlen, hreq, hsent⟩ := hl
    rw [Activity.play_waiting] at hform
    rw [Activity.sent_waiting, List.append_cons, ← hreq] at hsent
    obtain ⟨ys, hr⟩ := ran_release src ht (fixed v.pending.request.param v.pending.request.value)
    have hcourse := course_handled (Handled.release ht hr)
    rw [hwn] at hr
    have hleft : ∀ u ∈ s.waiting.filter (·.request ≠ v.request), u ∈ s.waiting ∧ u.number ≠ n := by
      intro u hu
      obtain ⟨hu, hne⟩ := List.mem_filter.mp hu
      refine ⟨hu, fun hun => ?_⟩
      rw [hsame u hu hun] at hne
      simp at hne
    obtain ⟨j, hj, hu⟩ := of_ran hsrc hr hform hsent.symm (fun u hu => (hleft u hu).2) fun u hu =>
      Nat.lt_of_lt_of_le (h.late u (hleft u hu).1 (hleft u hu).2) (hcourse.generation_le _)
    have hj : s.requests.length ≤ j := hj
    rw [hreq, List.length_append, hlen] at hj
    exact ⟨j, hj, hu⟩

/-- A reply to another request keeps what the call leads to, and a reply to the request that it waits for brings it
on. -/
theorem release (h : s.Underway fixed n goal requests i) (hsrc : src.Agrees fixed) (ho : s.pool.Ordered xs)
    (hnum : s.Numbered) (k : Nat) (hreply : i ≤ k → ∀ q, requests[k]? = some q → reply = fixed q.param q.value) :
    ∃ j, i ≤ j ∧ (i = k → i < requests.length → i < j) ∧ (s.release src k reply).Underway fixed n goal requests j := by
  cases ht : s.take? k with
  | none =>
    rw [release_of_take?_eq_none src ht]
    refine ⟨i, Nat.le_refl _, fun hk hi => ?_, h⟩
    obtain ⟨v, hv, _, hvi⟩ := h.waits_of_length_lt hi
    exact absurd (hvi.trans hk) (request_ne_of_take?_eq_none ht v hv)
  | some taken =>
    obtain ⟨w, t⟩ := taken
    by_cases hwn : w.number = n
    · obtain ⟨j, hj, hu⟩ := h.release_own hsrc ho ht hwn hreply
      exact ⟨j, Nat.le_of_lt hj, fun _ _ => hj, hu⟩
    · refine ⟨i, Nat.le_refl _, fun hk hi => ?_, h.release_late ho hnum ht hwn src reply⟩
      obtain ⟨_, hw, hwk⟩ := waiting_of_take? ht
      obtain ⟨v, hv, hvn, hvi⟩ := h.waits_of_length_lt hi
      rw [eq_of_request_eq hnum hv hw ((hvi.trans hk).trans hwk.symm)] at hvn
      exact absurd hvn hwn

/-- The numbers from a later one on are among those from an earlier one on. -/
theorem sublist_range' {j : Nat} (k : Nat) (h : i ≤ j) :
    (List.range' j (k - j)).Sublist (List.range' i (k - i)) := by
  by_cases hj : j ≤ k
  · have he : List.range' i (k - i) = List.range' i (j - i) ++ List.range' j (k - j) := by
      have := List.range'_append_1 (s := i) (m := j - i) (n := k - j)
      rw [Nat.add_sub_cancel' h] at this
      rw [this]
      congr 1
      omega
    rw [he]
    exact List.sublist_append_right _ _
  · rw [Nat.sub_eq_zero_of_le (by omega)]
    exact List.nil_sublist _

/-- Replies bring the call to its end if they come to each of its requests in order. -/
theorem after (h : s.Underway fixed n goal requests i) (hsrc : src.Agrees fixed) (ho : s.pool.Ordered xs)
    (hnum : s.Numbered) (late : List (Nat × Reply))
    (hreply : ∀ d ∈ late, i ≤ d.1 → ∀ q, requests[d.1]? = some q → d.2 = fixed q.param q.value) :
    ∃ j, (s.after src (Event.replies late)).Underway fixed n goal requests j ∧
      ((List.range' i (requests.length - i)).Sublist (late.map (·.1)) → requests.length ≤ j) := by
  induction late generalizing s xs i with
  | nil =>
    refine ⟨i, h, fun hcame => ?_⟩
    have := hcame.length_le
    simp only [List.length_range', List.map_nil, List.length_nil] at this
    omega
  | cons d late ih =>
    rw [List.forall_mem_cons] at hreply
    have hh : Handled src s (.release d.1 d.2 none) _ (s.release src d.1 d.2) := handled s _
    obtain ⟨j, hij, hstep, hj⟩ := h.release hsrc ho hnum d.1 hreply.1
    obtain ⟨m, hm, hcame⟩ := ih hj (ho.course (course_handled hh)) (hnum.of_handled hh)
      fun e he hje => hreply.2 e he (Nat.le_trans hij hje)
    refine ⟨m, hm, fun hsub => hcame ?_⟩
    by_cases hi : i < requests.length
    · obtain ⟨k, hk⟩ := Nat.exists_eq_add_of_lt hi
      rw [show requests.length - i = k + 1 by omega, List.range'_succ, List.map_cons, List.cons_sublist_cons'] at hsub
      rcases hsub with hsub | ⟨hd, hsub⟩
      · rw [← List.range'_succ, show k + 1 = requests.length - i by omega] at hsub
        exact (sublist_range' _ hij).trans hsub
      · rw [show k = requests.length - (i + 1) by omega] at hsub
        exact (sublist_range' _ (hstep hd hi)).trans hsub
    · rw [show requests.length - j = 0 by omega]
      exact List.nil_sublist _

end Underway

/-- The call that restores the page loads or disables the areas and the racks. -/
theorem renews_of_ran_restore {l : Level} (hl : l ≠ .site) (h : Ran src none number call s (.entered .restore) xs t) :
    ∃ x ∈ xs, x.Renews l := by
  cases h with
  | own _ hr =>
    simp only [Activity.advance, Activity.enter] at hr
    split at hr
    · cases hr with
      | own =>
        refine ⟨_, List.mem_cons_of_mem _ List.mem_cons_self, ⟨l, .disable⟩, ?_, rfl, rfl⟩
        cases l with
        | site => exact absurd rfl hl
        | area => simp [Activity.deeds, disableDeeds]
        | rack => simp [Activity.deeds, disableDeeds]
    · cases hr with
      | own =>
        have hbinds : (Activity.begin .area s.form.site.select.value true).binds l = true := by
          cases l with
          | site => exact absurd rfl hl
          | area => rfl
          | rack => rfl
        obtain ⟨⟨d, hd, hdl⟩, hren⟩ := Activity.exists_deed_of_binds (f := s.form) hbinds
        exact ⟨_, List.mem_cons_of_mem _ List.mem_cons_self, d, hd, hdl, hren d hd⟩

/-- When it starts, the call that restores the page makes the replies to all earlier requests too late. -/
theorem underway_start (hsrc : src.Agrees fixed) (ho : s.pool.Ordered xs) :
    ∃ j, s.requests.length ≤ j ∧ (s.start src .restore).Underway fixed s.started
      ((Activity.entered .restore).play fixed s.form)
      (s.requests ++ (Activity.entered .restore).sent fixed s.form) j := by
  have hr : Ran src none s.started .restore { s with started := s.started + 1 } (.entered .restore) _
    (s.start src .restore) := ran_run ..
  have hcourse := course_handled (.start hr)
  have hown : ∀ w ∈ s.waiting, w.number ≠ s.started := fun w hw =>
    Nat.ne_of_lt (ho.number_lt w.thread (thread_mem hw))
  refine Underway.of_ran (s := { s with started := s.started + 1 }) hsrc hr rfl rfl hown fun w hw => ?_
  obtain ⟨x, hx, _, hxa⟩ := asks_of_waiting ho hw
  exact Nat.lt_of_le_of_lt (ho.generation_le x hx _ hxa)
    (hcourse.generation_lt (renews_of_ran_restore (level_ne_site ho hw) hr))

/-- **Restoring a page, from its start to its end.** Let the page be in any state that calls and replies can have
brought about. When each request of a call that restores it gets the reply that is fixed for it, at once or later, and
no other call starts, the call ends with the last of these replies. When it has ended, it has sent the requests of the
reference, no others were sent, and the areas and the racks look as the reference says, whatever replies to earlier
requests have come and will come. -/
theorem restore_end_to_end (src₀ src : Source σ) (traffic : Traffic σ) (site area rack : Select) (endpoints : Endpoints)
    (events : List Event) (hsrc : src.Agrees fixed) (late : List (Nat × Reply)) :
    let s := (fresh traffic site area rack endpoints).after src₀ events
    let goal := endpoints.restored fixed s.form.site.select.value s.form.area.select.currentValue
      s.form.rack.select.currentValue
    let t := (s.start src .restore).after src (Event.replies late)
    (∀ d ∈ late, s.requests.length ≤ d.1 → ∀ q ∈ goal.requests[d.1 - s.requests.length]?,
      d.2 = fixed q.param q.value) →
    ((List.range' s.requests.length goal.requests.length).Sublist (late.map (·.1)) →
      ∀ w ∈ t.waiting, w.number ≠ s.started) ∧
    ((∀ w ∈ t.waiting, w.number ≠ s.started) →
      t.requests = s.requests ++ goal.requests ∧ t.form.site = s.form.site ∧ t.form.area.sight = goal.area ∧
        t.form.rack.sight = goal.rack) := by
  intro s goal t hreply
  have hc := course_history src₀ (fresh traffic site area rack endpoints) events
  have ho : s.pool.Ordered _ := (fresh_ordered traffic site area rack endpoints).course hc
  have hn : s.Numbered := (fresh_numbered traffic site area rack endpoints).after src₀ events
  have hh : Handled src s (.start .restore none) _ (s.start src .restore) := handled s _
  obtain ⟨hsent, hsite, harea, hrack⟩ : _ ∧ _ ∧ _ ∧ _ := Activity.played_restore (f := s.form) (e := endpoints) fixed
    (hc.endpoint_eq .area) (hc.endpoint_eq .rack)
  obtain ⟨j, hj, hstart⟩ := underway_start (s := s) hsrc ho
  rw [hsent] at hstart
  obtain ⟨m, hm, hcame⟩ := hstart.after hsrc (ho.course (course_handled hh)) (hn.of_handled hh) late
    fun d hd hjd q hq => by
      have hle := Nat.le_trans hj hjd
      rw [List.getElem?_append_right hle] at hq
      exact hreply d hd hle q hq
  refine ⟨fun hsub => ?_, fun hended => ?_⟩
  · refine hm.ended_of_length_le (hcame ((Underway.sublist_range' _ hj).trans ?_))
    rw [List.length_append, Nat.add_sub_cancel_left]
    exact hsub
  · rcases hm.own with ⟨_, hform, hreq, _⟩ | ⟨w, hw, hwn, _⟩
    · rw [hform]
      exact ⟨hreq, hsite, harea, hrack⟩
    · exact absurd hwn (hended w hw)

/-- A page whose racks were asked for, and that was restored before, when it is restored again. The replies to the
earlier requests come around those to the new ones. -/
theorem restore_end_to_end_late_replies :
    let fixed : String → String → Reply := fun param _ =>
      if param = "site" then .ok [⟨.number 12, "A"⟩, ⟨.number 13, "B"⟩] else .ok [⟨.text "40", "R"⟩]
    let late : List (Nat × Reply) := [(0, .ok [⟨.number 7, "Q"⟩]), (2, fixed "site" "5"), (1, .ok [⟨.number 12, "A"⟩]),
      (3, fixed "area" "12"), (4, .ok [])]
    let s : Session Unit := (fresh { source := () } ((Select.new "id_site").withValue "5")
      ((Select.new "id_area").withData Select.currentValueKey "12")
      ((Select.new "id_rack").withData Select.currentValueKey "40") ⟨some "/areas/", some "/racks/"⟩).after .holding
        [.start (.load .rack "9" true) none, .start .restore none]
    let t := (s.start .holding .restore).after .holding (Event.replies late)
    (∀ w ∈ t.waiting, w.number ≠ 2) ∧
      t.requests = s.requests ++ [⟨"/areas/", "site", "5"⟩, ⟨"/racks/", "area", "12"⟩] ∧
      t.form.area.select.value = "12" ∧ t.form.rack.select.value = "40" := by
  intro fixed late s t
  let goal := Endpoints.restored ⟨some "/areas/", some "/racks/"⟩ fixed s.form.site.select.value
    s.form.area.select.currentValue s.form.rack.select.currentValue
  have hgoal : goal.requests = [⟨"/areas/", "site", "5"⟩, ⟨"/racks/", "area", "12"⟩] ∧ goal.area.value = "12" ∧
      goal.rack.value = "40" := by decide +kernel
  have hstarted : s.started = 2 := by decide +kernel
  have hsrc : Source.holding.Agrees fixed := fun st r reply st' h => by cases h
  have hreply : ∀ d ∈ late, s.requests.length ≤ d.1 → ∀ q ∈ goal.requests[d.1 - s.requests.length]?,
      d.2 = fixed q.param q.value := by decide +kernel
  have hcame : (List.range' s.requests.length goal.requests.length).Sublist (late.map (·.1)) := by decide +kernel
  obtain ⟨hended, hdone⟩ := restore_end_to_end .holding .holding _ _ _ _ _ _ hsrc late hreply
  obtain ⟨hreq, _, harea, hrack⟩ := hdone (hended hcame)
  refine ⟨hstarted ▸ hended hcame, hgoal.1 ▸ hreq, ?_, ?_⟩
  · exact (congrArg Sight.value harea).trans hgoal.2.1
  · exact (congrArg Sight.value hrack).trans hgoal.2.2

end Session

end LinkedSelect
