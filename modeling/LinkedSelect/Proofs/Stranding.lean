import Mathlib.Data.List.Induction
import LinkedSelect.Proofs.Waiting

/-!
# Racks without an area

While no area is selected the racks should be disabled. Every call leaves them so (`Session.inLine_start`), and so does
every reply but one: if an area was picked while the areas were still loading, the racks of that area are loaded, and
then the areas come and none of them is restored. Nothing disables the racks then, and they stay *stranded* until the
next call starts.

* `Form.InLine` is what calls and all other replies keep.
* `Session.racks_follow_iff`: racks are disabled while no area is selected, exactly if no such reply has come since the
  last call was started.
-/

namespace LinkedSelect

namespace Event

/-- A request is answered, and nothing happens in the gap. -/
def isRelease : Event → Bool
  | .release _ _ none => true
  | _ => false

/-- A call restores the page or reports what was picked, or a request is answered, and nothing happens in the gap. -/
def isPlain : Event → Bool
  | .start call none => call.isPick
  | .release _ _ none => true
  | _ => false

end Event

namespace Form

/-- While no area is selected, the racks are disabled and only the placeholder is on show. -/
def RacksFollow (f : Form) : Prop :=
  f.area.select.value = "" →
    f.rack.phase = .disabled ∧ f.rack.select.disabled = true ∧ f.rack.select.entries = [.placeholder]

instance (f : Form) : Decidable f.RacksFollow :=
  inferInstanceAs (Decidable (_ → _))

/-- The racks are in line with the areas: they are disabled if no area is selected; while areas are loading, they are
not disabled only if one was picked meanwhile; and disabled racks show the placeholder alone. -/
structure InLine (f : Form) : Prop where
  unselected : f.area.select.value = "" → f.rack.phase = .disabled
  loading : ∀ g, f.area.phase = .loading g →
    (f.rack.phase ≠ .disabled ↔ f.area.select.value ≠ "" ∧ f.rack.endpoint.isSome = true)
  disabled : f.rack.phase = .disabled → f.rack.select.disabled = true ∧ f.rack.select.entries = [.placeholder]

/-- The areas have come, none of them is selected, and the racks are not disabled. -/
structure Stranded (f : Form) : Prop where
  populated : f.area.phase = .populated
  unselected : f.area.select.value = ""
  enabled : f.rack.phase ≠ .disabled

variable {f : Form}

theorem InLine.racksFollow (h : f.InLine) : f.RacksFollow := fun hv =>
  ⟨h.unselected hv, h.disabled (h.unselected hv)⟩

theorem Stranded.not_racksFollow (h : f.Stranded) : ¬f.RacksFollow := fun hf => h.enabled (hf h.unselected).1

/-! ## Forms that are in line -/

/-- Racks that were disabled just now are in line, if areas that are loading have no value yet. -/
theorem inLine_of_disabled (hp : f.rack.phase = .disabled) (hs : f.rack.select.disabled = true)
    (he : f.rack.select.entries = [.placeholder]) (hv : ∀ g, f.area.phase = .loading g → f.area.select.value = "") :
    f.InLine where
  unselected _ := hp
  loading g hg := ⟨fun h => absurd hp h, fun h => absurd (hv g hg) h.1⟩
  disabled _ := ⟨hs, he⟩

/-- Racks of the area that is selected are in line: they are disabled exactly if there is no endpoint. -/
theorem inLine_of_selected (hv : f.area.select.value ≠ "")
    (hp : f.rack.phase ≠ .disabled ↔ f.rack.endpoint.isSome = true)
    (hd : f.rack.phase = .disabled → f.rack.select.disabled = true ∧ f.rack.select.entries = [.placeholder]) :
    f.InLine where
  unselected h := absurd h hv
  loading _ _ := ⟨fun h => ⟨hv, hp.mp h⟩, fun h => hp.mpr h.2⟩
  disabled := hd

/-- A reply for the racks keeps them in line. -/
theorem InLine.resolve_rack (h : f.InLine) {g : Nat} (hg : f.rack.phase = .loading g) (reply : Reply)
    (wanted : Option String) : (f.modify .rack (·.resolve reply wanted)).InLine := by
  have hne : f.rack.phase ≠ .disabled := fun hd => by
    rw [hg] at hd
    cases hd
  exact {
    unselected := fun hv => absurd (h.unselected hv) hne
    loading := fun n hn => ⟨fun _ => (h.loading n hn).mp hne, fun _ hd => by cases hd⟩
    disabled := fun hd => by cases hd }

/-- A reply for the areas keeps the racks in line if the racks are disabled or an area is restored. -/
theorem InLine.resolve_area (h : f.InLine) (reply : Reply) (wanted : Option String)
    (hr : Select.hit? (Field.choicesOf reply) wanted = none → f.rack.phase = .disabled) :
    (f.modify .area (·.resolve reply wanted)).InLine where
  unselected hv := by
    refine hr (Option.eq_none_iff_forall_ne_some.mpr fun v hhit => (Select.hit?_eq_some hhit).2 ?_)
    have hv : (Select.hit? (Field.choicesOf reply) wanted).getD "" = "" := hv
    rw [hhit] at hv
    exact hv
  loading g hg := by cases hg
  disabled := h.disabled

end Form

/-! ## Calls that leave the racks in line -/

/-- What holds where a call stands that leaves the racks in line: it loads the areas, which disables the racks, or it
loads the racks of the area that is selected. -/
def Activity.Aligns (f : Form) : Activity → Prop
  | .entered call => call.isPick = true
  | .siteless _ => True
  | .ready load => load.level = .area ∧ load.first = none ∨
      load.level = .rack ∧ load.filter ≠ "" ∧ f.area.select.value = load.filter
  | .waiting p => f.InLine ∧ p.load.level ≠ .site ∧ (p.load.level = .area → f.rack.phase = .disabled)
  | .returned load outcome =>
    match load.next? outcome with
    | none => f.InLine
    | some next => next.level = .rack ∧ next.filter ≠ "" ∧ f.area.select.value = next.filter
  | .ended _ => f.InLine

namespace Activity

variable {f : Form}

theorem aligns_returned {load : Load} {outcome : Outcome} (hn : load.next? outcome = none) (h : f.InLine) :
    (returned load outcome).Aligns f := by
  simp only [Aligns, hn]
  exact h

/-- A reply leaves a call that keeps the racks in line, unless areas come that are not restored while the racks are not
disabled. -/
theorem aligns_resume {p : Pending} {reply : Reply} (h : f.InLine) (hl : p.load.level ≠ .site)
    (hd : p.load.level = .area → f.area.phase = .loading p.generation →
      Select.hit? (Field.choicesOf reply) p.wanted = none → f.rack.phase = .disabled) :
    (resume f p reply).2.Aligns (resume f p reply).1 := by
  by_cases hp : (f.get p.load.level).phase = .loading p.generation
  · rw [resume_of_loading hp]
    cases hlev : p.load.level with
    | site => exact absurd hlev hl
    | rack =>
      rw [hlev] at hp
      exact aligns_returned (Load.next?_rack hlev _) (h.resolve_rack hp reply p.wanted)
    | area =>
      rw [hlev] at hp
      cases hn : p.load.next? (Field.outcomeOf reply p.wanted) with
      | none => exact aligns_returned hn (h.resolve_area reply p.wanted (hd hlev hp))
      | some next =>
        obtain ⟨hr, hhit⟩ := Load.of_next?_area hlev hn
        simp only [Aligns, hn]
        exact ⟨hr, (Select.hit?_eq_some hhit).2, congrArg (·.getD "") hhit⟩
  · rw [resume_of_not_loading hp]
    exact aligns_returned (Load.next?_superseded _) h

/-- The beginning of a load leaves a call that keeps the racks in line. -/
theorem aligns_beginLoad {load : Load} (h : (ready load).Aligns f) :
    ((ready load).advance f).2.Aligns ((ready load).advance f).1 := by
  simp only [advance]
  rcases h with ⟨hl, hfirst⟩ | ⟨hl, hne, hv⟩
  · have ho : f.isOutdated load .site = false := by simp [Form.isOutdated, hfirst]
    rcases Form.beginLoad_eq (by rw [hl]; rfl) ho with ⟨_, hb⟩ | ⟨endpoint, _, hb⟩
    · rw [hb, hl]
      exact aligns_returned (Load.next?_disabled _) (Form.inLine_of_disabled rfl rfl rfl fun g hg => by cases hg)
    · rw [hb]
      simp only [Aligns, hl]
      exact ⟨Form.inLine_of_disabled rfl rfl rfl fun _ _ => rfl, by decide, fun _ => rfl⟩
  · have hv' : (f.get .area).select.value = load.filter := hv
    have ho : f.isOutdated load .area = false := by simp [Form.isOutdated, hv']
    have hsel : f.area.select.value ≠ "" := by rw [hv]; exact hne
    rcases Form.beginLoad_eq (by rw [hl]; rfl) ho with ⟨he, hb⟩ | ⟨endpoint, he, hb⟩
    · rw [hl, Form.endpoint?, if_neg hne] at he
      rw [hb, hl]
      refine aligns_returned (Load.next?_disabled _) ?_
      refine Form.inLine_of_selected hsel ⟨fun h => absurd rfl h, fun h => ?_⟩ fun _ => ⟨rfl, rfl⟩
      have h : (f.get .rack).endpoint.isSome = true := h
      rw [he] at h
      cases h
    · rw [hl, Form.endpoint?, if_neg hne] at he
      rw [hb]
      simp only [Aligns, hl]
      refine ⟨?_, by decide, fun h => by cases h⟩
      refine Form.inLine_of_selected hsel ⟨fun _ => ?_, fun _ hd => by cases hd⟩ fun hd => by cases hd
      exact Option.isSome_of_eq_some he

/-- Every section leaves a call that keeps the racks in line. -/
theorem aligns_advance {a : Activity} (h : a.Aligns f) (ha : a.canAdvance = true) :
    (a.advance f).2.Aligns (a.advance f).1 := by
  cases a with
  | entered call =>
    cases call with
    | restore =>
      simp only [advance, enter]
      split
      · trivial
      · exact Or.inl ⟨rfl, rfl⟩
    | siteChanged value =>
      simp only [advance, enter]
      split
      · exact Form.inLine_of_disabled rfl rfl rfl fun g hg => by cases hg
      · exact Or.inl ⟨rfl, rfl⟩
    | areaChanged value =>
      simp only [advance, enter]
      split
      · next hv => exact Form.inLine_of_disabled rfl rfl rfl fun _ _ => hv
      · next hv => exact Or.inr ⟨rfl, hv, rfl⟩
    | load level filter retain => cases h
  | siteless retained =>
    simp only [advance]
    split <;> exact Form.inLine_of_disabled rfl rfl rfl fun g hg => by cases hg
  | ready load => exact aligns_beginLoad h
  | returned load outcome =>
    simp only [Aligns] at h
    simp only [advance, goOn]
    cases hn : load.next? outcome with
    | some next =>
      rw [hn] at h
      exact Or.inr h
    | none =>
      rw [hn] at h
      exact h
  | waiting p => cases ha
  | ended outcome => cases ha

end Activity

namespace Session

variable {σ : Type} {src : Source σ}

/-- A call without a gap leaves the racks in line. -/
theorem inLine_of_ran {gap : Option Call} {number : Nat} {call : Call} {s t : Session σ} {a : Activity}
    {xs : List Section} (h : Ran src gap number call s a xs t) (hg : gap = none) : a.Aligns s.form → t.form.InLine := by
  induction h with
  | ends outcome => exact id
  | holds hf => exact fun h => h.1
  | answers hf _ ih => exact fun h => ih hg (Activity.aligns_resume h.1 h.2.1 fun hl _ _ => h.2.2 hl)
  | own ha _ ih => exact fun h => ih hg (Activity.aligns_advance h ha)
  | gap => cases hg

/-- Every call by which a host restores the page or reports what was picked leaves the racks in line. -/
theorem inLine_start (s : Session σ) {call : Call} (h : call.isPick = true) : (s.start src call).form.InLine :=
  inLine_of_ran (ran_run _ s.started call (.entered call)) rfl h

/-! ## Replies -/

/-- The reply to a request brings the areas, none of them is restored, and an area was picked while they were loading,
for which there may be racks. -/
def Strands (s : Session σ) (request : Nat) (reply : Reply) : Prop :=
  ∃ w, s.waiting.find? (·.request = request) = some w ∧ w.pending.load.level = .area ∧
    s.form.area.phase = .loading w.pending.generation ∧
    Select.hit? (Field.choicesOf reply) w.pending.wanted = none ∧
    s.form.area.select.value ≠ "" ∧ s.form.rack.endpoint.isSome = true

section Release

variable {s : Session σ} {xs : List Section} {request : Nat} {reply : Reply}

/-- A release hands the reply to the call that waits, and that call goes on. -/
theorem release_eq_or_ran (src : Source σ) (s : Session σ) (request : Nat) (reply : Reply) :
    s.release src request reply = s ∧ s.waiting.find? (·.request = request) = none ∨
      ∃ w, ∃ t : Session σ, ∃ ys, s.waiting.find? (·.request = request) = some w ∧ t.form = s.form ∧
        Ran src none w.number w.call (t.hand w reply).1 (t.hand w reply).2 ys (s.release src request reply) := by
  cases hw : s.waiting.find? (·.request = request) with
  | none => simp [release, take?, hw]
  | some w =>
    let t := { s with waiting := s.waiting.filter (·.request ≠ request) }
    refine Or.inr ⟨w, t, (t.hand w reply).1.sections src w.number w.call (t.hand w reply).2, rfl, rfl, ?_⟩
    simp only [release, take?, hw, Option.map_some]
    exact ran_run ..

theorem inLine_release (ho : s.pool.Ordered xs) (h : s.form.InLine) (hs : ¬s.Strands request reply) :
    (s.release src request reply).form.InLine := by
  rcases release_eq_or_ran src s request reply with ⟨he, _⟩ | ⟨w, t, ys, hw, ht, hr⟩
  · rw [he]
    exact h
  · rw [← ht] at h
    refine inLine_of_ran hr rfl (Activity.aligns_resume h (level_ne_site ho (List.mem_of_find?_eq_some hw)) ?_)
    intro hl hp hhit
    -- else an area was picked while the areas were loading
    refine Decidable.byContradiction fun hne => hs ⟨w, hw, hl, by rw [← ht]; exact hp, hhit, ?_⟩
    rw [← ht]
    exact (h.loading _ hp).mp hne

theorem stranded_release_of_strands (h : s.form.InLine) (hs : s.Strands request reply) :
    (s.release src request reply).form.Stranded := by
  obtain ⟨v, hv, hl, hp, hhit, hpicked⟩ := hs
  rcases release_eq_or_ran src s request reply with ⟨_, hn⟩ | ⟨w, t, ys, hw, ht, hr⟩
  · rw [hv] at hn
    cases hn
  · rw [hv] at hw
    cases hw
    rw [← ht] at hp hpicked h
    have hlive : (t.form.get v.pending.load.level).phase = .loading v.pending.generation := by
      rw [hl]
      exact hp
    simp only [hand, Activity.resume_of_loading hlive] at hr
    have hnext : v.pending.load.next? (Field.outcomeOf reply v.pending.wanted) = none :=
      Option.eq_none_iff_forall_ne_some.mpr fun next hn => by
        rw [(Load.of_next?_area hl hn).2] at hhit
        cases hhit
    rw [(ran_returned_last hnext hr).1, hl]
    exact ⟨rfl, congrArg (·.getD "") hhit, (h.loading _ hp).mpr hpicked⟩

theorem stranded_release (ho : s.pool.Ordered xs) (h : s.form.Stranded) :
    (s.release src request reply).form.Stranded := by
  rcases release_eq_or_ran src s request reply with ⟨he, _⟩ | ⟨w, t, ys, hw, ht, hr⟩
  · rw [he]
    exact h
  · rw [← ht] at h
    by_cases hp : (t.form.get w.pending.load.level).phase = .loading w.pending.generation
    · simp only [hand, Activity.resume_of_loading hp] at hr
      cases hl : w.pending.load.level with
      | site => exact absurd hl (level_ne_site ho (List.mem_of_find?_eq_some hw))
      | area =>
        rw [hl, show t.form.get .area = t.form.area from rfl, h.populated] at hp
        cases hp
      | rack =>
        rw [(ran_returned_last (Load.next?_rack hl _) hr).1, hl]
        exact ⟨h.populated, h.unselected, fun hd => by cases hd⟩
    · simp only [hand, Activity.resume_of_not_loading hp] at hr
      rw [(ran_returned_last (Load.next?_superseded _) hr).1]
      exact h

end Release

/-! ## Runs -/

variable (src)

/-- Among some events there is a release that strands the racks, and since then there were only releases. -/
def StrandedBy (s : Session σ) (events : List Event) : Prop :=
  ∃ es₁ request reply es₂, events = es₁ ++ .release request reply none :: es₂ ∧
    (∀ e ∈ es₂, e.isRelease = true) ∧ (s.after src es₁).Strands request reply

/-- A call that has just been started leaves no racks stranded. -/
theorem not_strandedBy_start (s : Session σ) (events : List Event) (call : Call) (gap : Option Call) :
    ¬s.StrandedBy src (events ++ [.start call gap]) := by
  rintro ⟨es₁, request, reply, es₂, he, hrel, _⟩
  rcases List.eq_nil_or_concat es₂ with rfl | ⟨es, e, rfl⟩
  · cases (List.append_inj' he rfl).2
  · rw [List.concat_eq_append] at he hrel
    have he : events ++ [.start call gap] = (es₁ ++ .release request reply none :: es) ++ [e] := by
      rw [he, List.append_assoc, List.cons_append]
    cases (List.append_inj' he rfl).2
    cases hrel _ (List.mem_append_right _ (List.mem_singleton_self _))

/-- A release leaves the racks stranded if they were, or if it strands them. -/
theorem strandedBy_release_iff (s : Session σ) (events : List Event) (request : Nat) (reply : Reply) :
    s.StrandedBy src (events ++ [.release request reply none]) ↔
      s.StrandedBy src events ∨ (s.after src events).Strands request reply := by
  constructor
  · rintro ⟨es₁, request', reply', es₂, he, hrel, hs⟩
    rcases List.eq_nil_or_concat es₂ with rfl | ⟨es, e, rfl⟩
    · obtain ⟨rfl, hr⟩ := List.append_inj' he rfl
      cases hr
      exact Or.inr hs
    · rw [List.concat_eq_append] at he hrel
      have he : events ++ [.release request reply none] = (es₁ ++ .release request' reply' none :: es) ++ [e] := by
        rw [he, List.append_assoc, List.cons_append]
      exact Or.inl ⟨es₁, request', reply', es, (List.append_inj' he rfl).1,
        fun e he => hrel e (List.mem_append_left _ he), hs⟩
  · rintro (⟨es₁, request', reply', es₂, rfl, hrel, hs⟩ | hs)
    · refine ⟨es₁, request', reply', es₂ ++ [.release request reply none], by simp, ?_, hs⟩
      rw [List.forall_mem_append, List.forall_mem_singleton]
      exact ⟨hrel, rfl⟩
    · exact ⟨events, request, reply, [], rfl, fun e he => absurd he List.not_mem_nil, hs⟩

/-- After the first call the racks are in line, or some release has stranded them. -/
theorem inLine_or_stranded (traffic : Traffic σ) (site area rack : Select) (endpoints : Endpoints)
    (events : List Event) (h : ∀ e ∈ events, e.isPlain = true) :
    let s := fresh traffic site area rack endpoints
    let es := .start .restore none :: events
    (s.after src es).form.InLine ∧ ¬s.StrandedBy src es ∨ (s.after src es).form.Stranded ∧ s.StrandedBy src es := by
  intro s es
  induction events using List.reverseRecOn with
  | nil => exact Or.inl ⟨inLine_start s rfl, not_strandedBy_start src s [] .restore none⟩
  | append_singleton events e ih =>
    rw [List.forall_mem_append, List.forall_mem_singleton] at h
    have ih := ih h.1
    have hes : es = (.start .restore none :: events) ++ [e] := rfl
    generalize Event.start .restore none :: events = before at ih hes
    have ho := (fresh_ordered traffic site area rack endpoints).course (course_history src s before)
    rw [hes, after_append]
    cases e with
    | start call gap =>
      cases gap with
      | none => exact Or.inl ⟨inLine_start _ h.2, not_strandedBy_start src s before call none⟩
      | some gap => cases h.2
    | release request reply gap =>
      cases gap with
      | some gap => cases h.2
      | none =>
        rw [strandedBy_release_iff]
        rcases ih with ⟨hin, hnot⟩ | ⟨hstr, hby⟩
        · by_cases hs : (s.after src before).Strands request reply
          · exact Or.inr ⟨stranded_release_of_strands hin hs, Or.inr hs⟩
          · exact Or.inl ⟨inLine_release ho hin hs, fun h => h.elim hnot hs⟩
        · exact Or.inr ⟨stranded_release ho hstr, Or.inl hby⟩
    | cancel number => cases h.2

/-- **Racks are disabled while no area is selected, except after a reply that strands them.** After a page was restored,
calls were started, and replies have come, the racks are disabled and show the placeholder alone while no area is
selected, unless a reply has stranded them and no call was started since. -/
theorem racks_follow_iff (traffic : Traffic σ) (site area rack : Select) (endpoints : Endpoints)
    (events : List Event) (h : ∀ e ∈ events, e.isPlain = true) :
    let s := fresh traffic site area rack endpoints
    let es := .start .restore none :: events
    (s.after src es).form.RacksFollow ↔ ¬s.StrandedBy src es := by
  intro s es
  rcases inLine_or_stranded src traffic site area rack endpoints events h with ⟨hin, hnot⟩ | ⟨hstr, hby⟩
  · exact ⟨fun _ => hnot, fun _ => hin.racksFollow⟩
  · exact ⟨fun hf => absurd hf hstr.not_racksFollow, fun hn => absurd hby hn⟩

/-- A page with a site: while its areas are loading, an area is picked, its racks come, and then the areas come. -/
def pickedEarly : List Event :=
  [.start (.areaChanged "13") none, .release 1 (.ok [⟨.number 40, "R"⟩]) none,
    .release 0 (.ok [⟨.number 12, "A"⟩, ⟨.number 13, "B"⟩]) none]

/-- A rack is on show although no area is selected. -/
theorem racks_without_area :
    let f := ((fresh { source := () } ((Select.new "id_site").withValue "5") (.new "id_area") (.new "id_rack")
      ⟨some "/areas/", some "/racks/"⟩).after .holding (.start .restore none :: pickedEarly)).form
    ¬f.RacksFollow ∧ f.area.select.value = "" ∧ f.rack.phase = .populated ∧
      f.rack.select.entries = Select.entriesOf [⟨.number 40, "R"⟩] := by
  decide +kernel

theorem racks_stranded_pickedEarly :
    (∀ e ∈ pickedEarly, e.isPlain = true) ∧
      (fresh { source := () } ((Select.new "id_site").withValue "5") (.new "id_area") (.new "id_rack")
        ⟨some "/areas/", some "/racks/"⟩).StrandedBy .holding (.start .restore none :: pickedEarly) := by
  have h : ∀ e ∈ pickedEarly, e.isPlain = true := by decide
  refine ⟨h, Classical.byContradiction fun hn => ?_⟩
  have hf := (racks_follow_iff .holding { source := () } ((Select.new "id_site").withValue "5") (.new "id_area")
    (.new "id_rack") ⟨some "/areas/", some "/racks/"⟩ pickedEarly h).mpr hn
  revert hf
  decide +kernel

end Session

end LinkedSelect
