import LinkedSelect.Proofs.Superseding

/-!
# Outcomes agree with what is on show

The last outcome of a field is kept beside its phase and its select: a reply sets all of them, a disabling clears the
outcome, a refused load sets it after that, and a load that begins keeps the outcome of the one before.

* `Field.Accounted` is what every change of a field and every reply keep (`Change.accounted_apply`,
  `Field.accounted_resolve`). The value of the racks is also the one that their outcome names (`Field.Chosen`), because
  no call selects a rack; a value of the areas may have been picked since.
* A section in which a load of the areas begins, or in which they are disabled, closes the racks
  (`Section.Runs.racks_closed`).
* `Session.outcomes_agree`: in every state the last outcomes agree with what the selects show.
-/

namespace LinkedSelect

/-! ## One field -/

namespace Field

/-- The select shows as many options as the last outcome counts, or none if that is a failure. -/
def Told (x : Field) : Prop :=
  match x.outcome with
  | some (.populated n _) => x.select.entries.length = n + 1
  | some (.failed _) => x.select.entries = [.placeholder]
  | _ => False

/-- A populated field has the value that its last outcome names. -/
def Chosen (x : Field) : Prop :=
  x.phase = .populated → ∀ n v, x.outcome = some (.populated n v) → x.select.value = v.getD ""

/-- The last outcome agrees with the phase, and if the field was loaded with what the select shows. -/
structure Accounted (x : Field) : Prop where
  told : x.phase = .populated → x.generation ≠ 0 → x.Told
  disabled : x.phase = .disabled → x.outcome = none ∨ x.outcome = some .disabled
  not_superseded : x.outcome ≠ some .superseded

variable {x : Field}

theorem accounted_new (select : Select) (endpoint : Option String) : (new select endpoint).Accounted where
  told _ hg := absurd rfl hg
  disabled _ := Or.inl rfl
  not_superseded := by simp [new]

theorem chosen_new (select : Select) (endpoint : Option String) : (new select endpoint).Chosen := by
  intro _ n v ho
  cases ho

theorem accounted_resolve (x : Field) (reply : Reply) (wanted : Option String) :
    (x.resolve reply wanted).Accounted where
  told _ _ := by
    cases reply with
    | ok choices => simp [Told, resolve, outcomeOf, choicesOf, Select.withDisabled, Select.populate, Select.entriesOf]
    | error e => rfl
  disabled h := by cases h
  not_superseded h := outcomeOf_ne_superseded reply wanted (Option.some.inj h)

theorem chosen_resolve (x : Field) (reply : Reply) (wanted : Option String) : (x.resolve reply wanted).Chosen := by
  intro _ n v ho
  cases reply with
  | ok choices =>
    obtain ⟨_, rfl⟩ := Outcome.populated.inj (Option.some.inj ho)
    rfl
  | error e => cases ho

end Field

namespace Change

variable {x : Field}

theorem accounted_apply (c : Change) (h : x.Accounted) : (c.apply x).Accounted := by
  cases c with
  | select value => exact ⟨h.told, h.disabled, h.not_superseded⟩
  | forget => exact ⟨h.told, h.disabled, h.not_superseded⟩
  | disable => exact ⟨fun hp => (by cases hp), fun _ => Or.inl rfl, fun ho => (by cases ho)⟩
  | decline => exact ⟨fun hp => (by cases hp), fun _ => Or.inr rfl, fun ho => (by cases ho)⟩
  | load => exact ⟨fun hp => (by cases hp), fun hp => (by cases hp), h.not_superseded⟩

theorem chosen_apply {c : Change} (hc : ∀ v, c ≠ .select v) (h : x.Chosen) : (c.apply x).Chosen := by
  cases c with
  | select value => exact absurd rfl (hc value)
  | forget => exact h
  | disable => exact fun hp => by cases hp
  | decline => exact fun hp => by cases hp
  | load => exact fun hp => by cases hp

theorem outcome_apply {c : Change} (hc : c.renews = false) (x : Field) : (c.apply x).outcome = x.outcome := by
  cases c <;> first | rfl | cases hc

end Change

/-! ## The fields of a form -/

/-- The last outcomes agree with the fields, and sites are never loaded. -/
structure Form.Accounted (f : Form) : Prop where
  fields : ∀ l, (f.get l).Accounted
  racks : f.rack.Chosen
  site : f.site.outcome = none
  idle : ∀ g, f.site.phase ≠ .loading g

namespace Form.Accounted

variable {f : Form} {ds : List Deed}

theorem fields_perform (h : ∀ l, (f.get l).Accounted) (d : Deed) (l : Level) : ((f.perform d).get l).Accounted := by
  rw [get_perform]
  split
  · exact d.change.accounted_apply (h l)
  · exact h l

/-- A deed keeps the account if it neither renews the sites nor selects a rack. -/
theorem perform {d : Deed} (h : f.Accounted) (hs : d.level = .site → d.change.renews = false)
    (hr : d.level = .rack → ∀ v, d.change ≠ .select v) : (f.perform d).Accounted := by
  have hfields := fields_perform h.fields d
  obtain ⟨l, c⟩ := d
  cases l with
  | site =>
    refine ⟨hfields, h.racks, (Change.outcome_apply (hs rfl) _).trans h.site, fun g hg => h.idle g ?_⟩
    exact (Change.phase_apply (hs rfl) f.site).symm.trans hg
  | area => exact ⟨hfields, h.racks, h.site, h.idle⟩
  | rack => exact ⟨hfields, Change.chosen_apply (hr rfl) h.racks, h.site, h.idle⟩

theorem replay (h : f.Accounted) (hs : ∀ d ∈ ds, d.level = .site → d.change.renews = false)
    (hr : ∀ d ∈ ds, d.level = .rack → ∀ v, d.change ≠ .select v) : (f.replay ds).Accounted := by
  induction ds generalizing f with
  | nil => exact h
  | cons d ds ih =>
    rw [List.forall_mem_cons] at hs hr
    exact ih (h.perform hs.1 hr.1) hs.2 hr.2

end Form.Accounted

theorem Form.accounted_new (site area rack : Select) (endpoints : Endpoints) :
    (Form.new site area rack endpoints).Accounted where
  fields l := by cases l <;> exact Field.accounted_new _ _
  racks := Field.chosen_new _ _
  site := rfl
  idle := Field.phase_new _ _

/-! ## Sections -/

namespace Section

variable {x : Section}

/-- Every section keeps the account. -/
theorem Runs.accounted (hx : x.Runs) (h : x.before.Accounted) : x.after.Accounted := by
  rcases hx.own_or_answers with hr | ⟨p, reply, ha⟩
  · rw [(hx.after_eq hr).2.1]
    refine h.replay (fun d hd hl => ?_) fun d hd hl => ?_
    · rcases Activity.of_mem_deeds hd with ⟨v, _, rfl⟩ | ⟨v, _, rfl⟩ | ⟨hs, _⟩
      · rfl
      · cases hl
      · exact absurd hl hs
    · rcases Activity.of_mem_deeds hd with ⟨v, _, rfl⟩ | ⟨v, _, rfl⟩ | ⟨_, hn⟩
      · cases hl
      · cases hl
      · exact hn
  · have hsite : x.after.site = x.before.site := by
      rcases hx.get_of_answers ha .site with he | ⟨_, hp, _⟩
      · exact he
      · exact absurd hp (h.idle _)
    refine ⟨fun l => ?_, ?_, by rw [hsite]; exact h.site, by rw [hsite]; exact h.idle⟩
    · rcases hx.get_of_answers ha l with he | ⟨_, _, he⟩
      · rw [he]
        exact h.fields l
      · rw [he]
        exact Field.accounted_resolve _ _ _
    · show (x.after.get .rack).Chosen
      rcases hx.get_of_answers ha .rack with he | ⟨_, _, he⟩
      · rw [he]
        exact h.racks
      · rw [he]
        exact Field.chosen_resolve _ _ _

/-- A section in which a load of the areas begins, or in which they are disabled, closes the racks. -/
theorem Runs.racks_closed (hx : x.Runs) (hr : x.Renews .area) :
    x.after.rack.phase = .disabled ∧ x.after.rack.outcome = none := by
  cases hx with
  | reply =>
    obtain ⟨d, hd, _⟩ := hr
    cases hd
  | @own number call f a ha =>
    cases a with
    | entered call =>
      cases call with
      | restore =>
        obtain ⟨d, hd, _⟩ := hr
        cases hd
      | siteChanged value =>
        by_cases hv : value = ""
        · subst hv
          exact ⟨rfl, rfl⟩
        · simp [Renews, Activity.deeds, hv, Change.renews] at hr
      | areaChanged value =>
        simp only [Renews, Activity.deeds] at hr
        split at hr <;> simp [disableDeeds, Change.renews] at hr
      | load level filter retain =>
        obtain ⟨d, hd, _⟩ := hr
        cases hd
    | siteless retained => cases retained <;> exact ⟨rfl, rfl⟩
    | ready load =>
      obtain ⟨d, hd, hl, _⟩ := hr
      have hlev : load.level = .area := by
        obtain ⟨hlev | hlev, hs, _⟩ := Form.of_mem_loadDeeds hd
        · exact hlev.symm.trans hl
        · -- areas are below sites only
          rw [hl] at hlev
          cases hload : load.level <;> simp [hload, Level.descendants] at hlev hs
      have hd : d ∈ f.loadDeeds load := hd
      rw [← Activity.replay_deeds, Activity.deeds]
      simp only [Form.loadDeeds, hlev, Level.parent?] at hd ⊢
      split
      · next ho =>
        rw [if_pos ho] at hd
        cases hd
      · exact ⟨rfl, rfl⟩
    | returned load outcome =>
      obtain ⟨d, hd, _⟩ := hr
      cases hd
    | waiting p => cases ha
    | ended outcome => cases ha

end Section

/-! ## Runs -/

theorem Course.accounted {idle : Activity → Prop} {p q : Pool} {xs : List Section} (h : Course idle p xs q)
    (hp : p.form.Accounted) : q.form.Accounted := by
  induction h with
  | nil => exact hp
  | start _ _ _ ih => exact ih
  | leave _ _ _ ih => exact ih
  | act _ hx hb _ _ ih => exact hx.accounted (hb ▸ ih)

/-- The last outcomes agree with what the selects show after the sections `xs`: a populated field that was loaded, or
disabled before that, shows as many options as its outcome counts, or none if that is a failure; the racks have the
value that their outcome names; a disabled field has no outcome or that of a refused load; no outcome is that of a load
that was superseded; and sites have none. -/
structure Form.Accounts (f : Form) (xs : List Section) : Prop where
  told : ∀ l, (∃ x ∈ xs, x.Renews l) → (f.get l).phase = .populated → (f.get l).Told
  chosen : f.rack.Chosen
  disabled : ∀ l, (f.get l).phase = .disabled → (f.get l).outcome = none ∨ (f.get l).outcome = some .disabled
  not_superseded : ∀ l, (f.get l).outcome ≠ some .superseded
  site : f.site.outcome = none

namespace Session

variable {σ : Type} (src : Source σ)

/-- After any course over a new form the last outcomes agree with what the selects show. -/
theorem accounts_of_course {idle : Activity → Prop} {traffic : Traffic σ} {site area rack : Select}
    {endpoints : Endpoints} {xs : List Section} {q : Pool}
    (h : Course idle (fresh traffic site area rack endpoints).pool xs q) : q.form.Accounts xs := by
  have ha : q.form.Accounted := h.accounted (Form.accounted_new site area rack endpoints)
  exact {
    told := fun l hr hp => (ha.fields l).told hp (Nat.ne_zero_of_lt (h.generation_lt hr))
    chosen := ha.racks
    disabled := fun l => (ha.fields l).disabled
    not_superseded := fun l => (ha.fields l).not_superseded
    site := ha.site }

/-- **Outcomes agree with what is on show.** Whatever calls are started, in gaps too, and whatever replies come and
calls are dropped: after the events and after every section the last outcomes agree with what the selects show, and a
section in which a load of the areas begins or in which they are disabled disables the racks, without an outcome. -/
theorem outcomes_agree (traffic : Traffic σ) (site area rack : Select) (endpoints : Endpoints) (events : List Event) :
    let s := (fresh traffic site area rack endpoints).after src events
    let xs := (fresh traffic site area rack endpoints).history src events
    s.form.Accounts xs ∧
      ∀ us x vs, xs = us ++ x :: vs → x.after.Accounts (us ++ [x]) ∧
        (x.Renews .area → x.after.rack.phase = .disabled ∧ x.after.rack.outcome = none) := by
  intro s xs
  have hc : Course _ _ xs s.pool := course_history src (fresh traffic site area rack endpoints) events
  refine ⟨accounts_of_course hc, fun us x vs hxs => ?_⟩
  rw [hxs] at hc
  obtain ⟨q, others, hq, hb, hx, ht, hi, _⟩ := hc.cut
  exact ⟨accounts_of_course (hq.act hx hb.symm ht hi), hx.racks_closed⟩

/-- A page on which an area and a rack are restored, and then the request for the racks of another area fails. -/
def failedRacks : List Event :=
  [.start .restore none, .release 0 (.ok [⟨.number 12, "A"⟩, ⟨.number 13, "B"⟩]) none,
    .release 1 (.ok [⟨.number 40, "R"⟩]) none, .start (.areaChanged "13") none,
    .release 2 (.error (.status 500 "failed")) none]

theorem failedRacks_outcomes_agree :
    let s₀ : Session Unit := fresh { source := () } ((Select.new "id_site").withValue "5")
      ((Select.new "id_area").withData Select.currentValueKey "12")
      ((Select.new "id_rack").withData Select.currentValueKey "40") ⟨some "/areas/", some "/racks/"⟩
    let f := (s₀.after .holding failedRacks).form
    f.area.outcome = some (.populated 2 (some "12")) ∧ f.area.select.entries.length = 3 ∧
      f.rack.outcome = some (.failed (.status 500)) ∧ f.rack.select.entries = [.placeholder] ∧
      ∃ x ∈ s₀.history .holding failedRacks, x.Renews .area ∧ x.after.rack.phase = .disabled ∧
        x.after.rack.outcome = none := by
  intro s₀ f
  have harea : f.area.outcome = some (.populated 2 (some "12")) := by decide +kernel
  have hrack : f.rack.outcome = some (.failed (.status 500)) := by decide +kernel
  have hphases : f.area.phase = .populated ∧ f.rack.phase = .populated := by decide +kernel
  have hrenews : ∀ l ∈ [Level.area, .rack], ∃ x ∈ s₀.history .holding failedRacks, x.Renews l := by decide +kernel
  obtain ⟨h, hsections⟩ := outcomes_agree .holding { source := () } ((Select.new "id_site").withValue "5")
    ((Select.new "id_area").withData Select.currentValueKey "12")
    ((Select.new "id_rack").withData Select.currentValueKey "40") ⟨some "/areas/", some "/racks/"⟩ failedRacks
  have h : f.Accounts _ := h
  have ha := h.told .area (hrenews .area (by decide)) hphases.1
  have hr := h.told .rack (hrenews .rack (by decide)) hphases.2
  simp only [Field.Told, show f.get .area = f.area from rfl, harea] at ha
  simp only [Field.Told, show f.get .rack = f.rack from rfl, hrack] at hr
  refine ⟨harea, ha, hrack, hr, ?_⟩
  obtain ⟨x, hx, hren⟩ := hrenews .area (by decide)
  obtain ⟨us, vs, hxs⟩ := List.append_of_mem hx
  exact ⟨x, hx, hren, (hsections us x vs hxs).2 hren⟩

end Session

end LinkedSelect
