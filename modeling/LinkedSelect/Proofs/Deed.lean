import LinkedSelect.Call

/-!
# Deeds

A section of a call changes the form by a list of changes of single fields, its *deeds* (`Activity.deeds`).

* A section changes the form by its deeds and by nothing else (`Activity.replay_deeds`).
* A load, a disabling and a refusal begin a new generation of their field (`Change.renews`); the other changes leave
  its generation and its phase alone (`Change.generation_apply`, `Change.phase_apply`). So after any deeds a field is
  in the generation and phase it was in, or in a later generation (`Form.replay_of_not_renews`,
  `Form.generation_lt_replay`).
* `Form.Begins` lists what the beginning of a load can come to, and `Activity.of_mem_deeds` what the deed of a call can
  be.
-/

namespace LinkedSelect

/-- A field that waits for a reply waits for that of its own generation. -/
def Field.Timely (x : Field) : Prop :=
  ∀ g, x.phase = .loading g → g = x.generation

theorem Field.retained?_clearRetained (x : Field) : x.clearRetained.retained? = none := by
  simp [retained?, clearRetained, Select.currentValue, Select.withData, Select.data?, Dataset.get?_set]

/-- A change of one field. -/
inductive Change
  | select (value : String)
  | forget
  | disable
  | decline
  | load
  deriving DecidableEq, Repr

namespace Change

/-- The field after a change. -/
def apply : Change → Field → Field
  | .select value, x => x.withValue value
  | .forget, x => x.clearRetained
  | .disable, x => x.disable
  | .decline, x => x.decline
  | .load, x => x.beginLoad

/-- The change begins a new generation: it loads the field or disables it. -/
def renews : Change → Bool
  | .select _ | .forget => false
  | .disable | .decline | .load => true

theorem generation_apply (c : Change) (x : Field) :
    (c.apply x).generation = x.generation + if c.renews then 1 else 0 := by
  cases c <;> rfl

theorem phase_apply {c : Change} (h : c.renews = false) (x : Field) : (c.apply x).phase = x.phase := by
  cases c <;> first | rfl | cases h

theorem endpoint_apply (c : Change) (x : Field) : (c.apply x).endpoint = x.endpoint := by
  cases c <;> rfl

theorem timely_apply (c : Change) {x : Field} (h : x.Timely) : (c.apply x).Timely := by
  cases c with
  | select value => exact h
  | forget => exact h
  | disable => exact fun g hg => by cases hg
  | decline => exact fun g hg => by cases hg
  | load => exact fun g hg => by cases hg; rfl

end Change

/-- A change of the field of a level. -/
structure Deed where
  level : Level
  change : Change
  deriving DecidableEq, Repr

namespace Form

/-- The form after a deed. -/
def perform (f : Form) (d : Deed) : Form :=
  f.modify d.level d.change.apply

/-- The form after some deeds, in order. -/
def replay (f : Form) (deeds : List Deed) : Form :=
  deeds.foldl perform f

/-- The deeds of the beginning of a load: none if the level has no parent or the load is outdated; else what lies
below is disabled, and the field is loaded or, without a filter or an endpoint, refused. -/
def loadDeeds (f : Form) (l : Load) : List Deed :=
  match l.level.parent? with
  | none => []
  | some parent =>
    if f.isOutdated l parent then []
    else l.level.descendants.map (⟨·, .disable⟩) ++
      [⟨l.level, if (f.endpoint? l.level l.filter).isSome then .load else .decline⟩]

end Form

/-- Deeds that disable some levels. -/
def disableDeeds (levels : List Level) : List Deed :=
  levels.map (⟨·, .disable⟩)

/-- The deeds of the next section of a call. -/
def Activity.deeds (f : Form) : Activity → List Deed
  | .entered (.siteChanged value) =>
    [⟨.site, .select value⟩, ⟨.area, .forget⟩, ⟨.rack, .forget⟩] ++
      if value = "" then disableDeeds [.area, .rack] else []
  | .entered (.areaChanged value) =>
    [⟨.area, .select value⟩, ⟨.rack, .forget⟩] ++ if value = "" then disableDeeds [.rack] else []
  | .siteless retained => disableDeeds [.area, .rack] ++ if retained then disableDeeds [.rack] else []
  | .ready load => f.loadDeeds load
  | _ => []

/-! ## Fields after deeds -/

theorem mem_disableDeeds {d : Deed} {levels : List Level} (h : d ∈ disableDeeds levels) :
    d.level ∈ levels ∧ d.change = .disable := by
  obtain ⟨l, hl, rfl⟩ := List.mem_map.mp h
  exact ⟨hl, rfl⟩

namespace Form

variable {f : Form} {l m : Level} {d : Deed} {ds : List Deed}

theorem replay_nil (f : Form) : f.replay [] = f := rfl

theorem replay_cons (f : Form) (d : Deed) (ds : List Deed) : f.replay (d :: ds) = (f.perform d).replay ds := rfl

theorem replay_append (f : Form) (ds es : List Deed) : f.replay (ds ++ es) = (f.replay ds).replay es :=
  List.foldl_append

theorem replay_disableDeeds (f : Form) (levels : List Level) : f.replay (disableDeeds levels) = f.disable levels := by
  induction levels generalizing f with
  | nil => rfl
  | cons l levels ih => exact ih (f.modify l .disable)

/-- A deed changes the field of its level alone. -/
theorem get_perform (f : Form) (d : Deed) (l : Level) :
    (f.perform d).get l = if l = d.level then d.change.apply (f.get l) else f.get l :=
  get_modify f d.level l _

theorem endpoint_replay (f : Form) (ds : List Deed) (l : Level) :
    ((f.replay ds).get l).endpoint = (f.get l).endpoint := by
  induction ds generalizing f with
  | nil => rfl
  | cons d ds ih =>
    rw [replay_cons, ih, get_perform]
    split
    · exact Change.endpoint_apply _ _
    · rfl

theorem generation_le_perform (f : Form) (d : Deed) (l : Level) :
    (f.get l).generation ≤ ((f.perform d).get l).generation := by
  rw [get_perform]
  split
  · rw [Change.generation_apply]
    exact Nat.le_add_right _ _
  · exact Nat.le_refl _

theorem generation_le_replay (f : Form) (ds : List Deed) (l : Level) :
    (f.get l).generation ≤ ((f.replay ds).get l).generation := by
  induction ds generalizing f with
  | nil => exact Nat.le_refl _
  | cons d ds ih => exact Nat.le_trans (generation_le_perform f d l) (ih _)

/-- A field that some deed renews is in a later generation. -/
theorem generation_lt_replay (f : Form) (h : ∃ d ∈ ds, d.level = l ∧ d.change.renews = true) :
    (f.get l).generation < ((f.replay ds).get l).generation := by
  induction ds generalizing f with
  | nil =>
    obtain ⟨d, hd, _⟩ := h
    cases hd
  | cons e ds ih =>
    obtain ⟨d, hd, hl, hr⟩ := h
    rcases List.mem_cons.mp hd with rfl | hd
    · refine Nat.lt_of_lt_of_le ?_ (generation_le_replay _ ds l)
      rw [get_perform, if_pos hl.symm, Change.generation_apply, if_pos hr]
      exact Nat.lt_succ_self _
    · exact Nat.lt_of_le_of_lt (generation_le_perform f e l) (ih _ ⟨d, hd, hl, hr⟩)

/-- A field that no deed renews is in the generation and in the phase it was in. -/
theorem replay_of_not_renews (f : Form) (h : ¬∃ d ∈ ds, d.level = l ∧ d.change.renews = true) :
    ((f.replay ds).get l).generation = (f.get l).generation ∧ ((f.replay ds).get l).phase = (f.get l).phase := by
  induction ds generalizing f with
  | nil => exact ⟨rfl, rfl⟩
  | cons e ds ih =>
    obtain ⟨hg, hp⟩ := ih (f.perform e) (fun ⟨d, hd, hr⟩ => h ⟨d, List.mem_cons_of_mem _ hd, hr⟩)
    rw [replay_cons, hg, hp, get_perform]
    split
    · next hl =>
      have hr : e.change.renews = false :=
        Bool.eq_false_iff.mpr fun hr => h ⟨e, List.mem_cons_self, hl.symm, hr⟩
      exact ⟨by rw [Change.generation_apply, hr]; rfl, Change.phase_apply hr _⟩
    · exact ⟨rfl, rfl⟩

theorem timely_replay (h : (f.get l).Timely) (ds : List Deed) : ((f.replay ds).get l).Timely := by
  induction ds generalizing f with
  | nil => exact h
  | cons d ds ih =>
    refine ih (f := f.perform d) ?_
    rw [get_perform]
    split
    · exact Change.timely_apply _ h
    · exact h

/-! ## The beginning of a load -/

/-- What the beginning of a load can come to. -/
inductive Begins (f : Form) (l : Load) : Form × Begun → Prop
  | parentless (h : l.level.parent? = none) : Begins f l (f, .ended .disabled)
  | outdated {parent : Level} (h : l.level.parent? = some parent) (ho : f.isOutdated l parent = true) :
      Begins f l (f, .ended .superseded)
  | declined {parent : Level} (h : l.level.parent? = some parent) (ho : f.isOutdated l parent = false)
      (he : f.endpoint? l.level l.filter = none) :
      Begins f l ((f.disable l.level.descendants).modify l.level .decline, .ended .disabled)
  | waits {parent : Level} {endpoint : String} (h : l.level.parent? = some parent)
      (ho : f.isOutdated l parent = false) (he : f.endpoint? l.level l.filter = some endpoint) :
      Begins f l ((f.disable l.level.descendants).modify l.level .beginLoad, .waits
        { load := l
          request := { endpoint, param := parent.name, value := l.filter }
          wanted := if l.retain then (f.get l.level).retained? else none
          generation := (f.get l.level).generation + 1 })

/-- Disabling what lies below a level leaves the level itself as it is. -/
theorem get_disable_descendants (f : Form) (l : Level) : (f.disable l.descendants).get l = f.get l := by
  cases l <;> rfl

theorem begins (f : Form) (l : Load) : Begins f l (f.beginLoad l) := by
  unfold beginLoad
  split
  · next h => exact .parentless h
  · next parent h =>
    have he : (f.disable l.level.descendants).endpoint? l.level l.filter = f.endpoint? l.level l.filter := by
      simp only [endpoint?, get_disable_descendants]
    split
    · next ho => exact .outdated h ho
    · next ho =>
      simp only [he]
      split
      · next hn => exact .declined h (by simpa using ho) hn
      · next endpoint hs =>
        simp only [get_modify, get_disable_descendants, if_pos]
        exact .waits h (by simpa using ho) hs

/-- A load that is not outdated is refused, or it waits. -/
theorem beginLoad_eq {l : Load} {parent : Level} (hp : l.level.parent? = some parent)
    (ho : f.isOutdated l parent = false) :
    f.endpoint? l.level l.filter = none ∧
        f.beginLoad l = ((f.disable l.level.descendants).modify l.level .decline, .ended .disabled) ∨
      ∃ endpoint, f.endpoint? l.level l.filter = some endpoint ∧
        f.beginLoad l = ((f.disable l.level.descendants).modify l.level .beginLoad, .waits
          { load := l
            request := { endpoint, param := parent.name, value := l.filter }
            wanted := if l.retain then (f.get l.level).retained? else none
            generation := (f.get l.level).generation + 1 }) := by
  have hb := begins f l
  generalize f.beginLoad l = r at hb ⊢
  cases hb with
  | parentless h =>
    rw [hp] at h
    cases h
  | outdated h ho' =>
    rw [hp] at h
    cases h
    rw [ho] at ho'
    cases ho'
  | declined _ _ he => exact Or.inl ⟨he, rfl⟩
  | @waits parent' endpoint h _ he =>
    rw [hp] at h
    cases h
    exact Or.inr ⟨endpoint, he, rfl⟩

/-- The beginning of a load changes the form by its deeds. -/
theorem replay_loadDeeds (f : Form) (l : Load) : f.replay (f.loadDeeds l) = (f.beginLoad l).1 := by
  have hd : ∀ c : Change, f.replay (l.level.descendants.map (⟨·, .disable⟩) ++ [⟨l.level, c⟩]) =
      (f.disable l.level.descendants).modify l.level c.apply := fun c => by
    rw [replay_append]
    exact congrArg (·.modify l.level c.apply) (replay_disableDeeds f _)
  have hb := begins f l
  generalize f.beginLoad l = r at hb ⊢
  cases hb with
  | parentless h => simp [loadDeeds, h, replay_nil]
  | outdated h ho => simp [loadDeeds, h, ho, replay_nil]
  | declined h ho he =>
    simp only [loadDeeds, h, ho, he, Option.isSome_none, Bool.false_eq_true, if_false]
    exact hd .decline
  | waits h ho he =>
    simp only [loadDeeds, h, ho, he, Option.isSome_some, Bool.false_eq_true, if_false, if_true]
    exact hd .load

/-- The deeds of the beginning of a load disable what lies below, and load or refuse the level itself. -/
theorem of_mem_loadDeeds {f : Form} {load : Load} {d : Deed} (h : d ∈ f.loadDeeds load) :
    (d.level = load.level ∨ d.level ∈ load.level.descendants) ∧ load.level ≠ .site ∧ d.change.renews = true := by
  simp only [loadDeeds] at h
  cases hp : load.level.parent? with
  | none =>
    rw [hp] at h
    cases h
  | some parent =>
    have hs : load.level ≠ .site := fun hl => by
      rw [hl] at hp
      cases hp
    simp only [hp] at h
    split at h
    · cases h
    · rcases List.mem_append.mp h with h | h
      · obtain ⟨m, hm, rfl⟩ := List.mem_map.mp h
        exact ⟨Or.inr hm, hs, rfl⟩
      · rw [List.mem_singleton.mp h]
        refine ⟨Or.inl rfl, hs, ?_⟩
        dsimp only
        split <;> rfl

end Form

/-! ## The sections of a call -/

namespace Activity

/-- **A section changes the form by its deeds.** -/
theorem replay_deeds (f : Form) (a : Activity) : f.replay (a.deeds f) = (a.advance f).1 := by
  cases a with
  | entered call =>
    cases call with
    | restore =>
      simp only [deeds, advance, enter]
      split <;> rfl
    | siteChanged value =>
      simp only [deeds, advance, enter, Form.replay_append]
      split
      · rw [Form.replay_disableDeeds]
        rfl
      · rfl
    | areaChanged value =>
      simp only [deeds, advance, enter, Form.replay_append]
      split
      · rw [Form.replay_disableDeeds]
        rfl
      · rfl
    | load level filter retain => rfl
  | siteless retained =>
    simp only [deeds, advance, Form.replay_append, Form.replay_disableDeeds]
    split
    · rw [Form.replay_disableDeeds]
    · rfl
  | ready load =>
    simp only [deeds, advance, Form.replay_loadDeeds]
    split <;> next h => rw [h]
  | waiting pending => rfl
  | returned load outcome => rfl
  | ended outcome => rfl

/-- What a deed of a call can be: it selects the site or the area that the call reports, or it changes a lower level in
another way. -/
theorem of_mem_deeds {f : Form} {a : Activity} {d : Deed} (h : d ∈ a.deeds f) :
    (∃ v, a = .entered (.siteChanged v) ∧ d = ⟨.site, .select v⟩) ∨
      (∃ v, a = .entered (.areaChanged v) ∧ d = ⟨.area, .select v⟩) ∨
      d.level ≠ .site ∧ ∀ v, d.change ≠ .select v := by
  have hlower : ∀ levels, d ∈ disableDeeds levels → Level.site ∉ levels →
      d.level ≠ .site ∧ ∀ v, d.change ≠ .select v := by
    intro levels hd hs
    obtain ⟨hl, hc⟩ := mem_disableDeeds hd
    exact ⟨fun he => hs (he ▸ hl), fun v hv => by rw [hc] at hv; cases hv⟩
  cases a with
  | entered call =>
    cases call with
    | restore => cases h
    | siteChanged value =>
      rcases List.mem_append.mp h with h | h
      · simp only [List.mem_cons, List.not_mem_nil, or_false] at h
        rcases h with rfl | rfl | rfl
        · exact Or.inl ⟨value, rfl, rfl⟩
        · exact Or.inr (Or.inr ⟨by decide, fun v hv => by cases hv⟩)
        · exact Or.inr (Or.inr ⟨by decide, fun v hv => by cases hv⟩)
      · split at h
        · exact Or.inr (Or.inr (hlower _ h (by decide)))
        · cases h
    | areaChanged value =>
      rcases List.mem_append.mp h with h | h
      · simp only [List.mem_cons, List.not_mem_nil, or_false] at h
        rcases h with rfl | rfl
        · exact Or.inr (Or.inl ⟨value, rfl, rfl⟩)
        · exact Or.inr (Or.inr ⟨by decide, fun v hv => by cases hv⟩)
      · split at h
        · exact Or.inr (Or.inr (hlower _ h (by decide)))
        · cases h
    | load level filter retain => cases h
  | siteless retained =>
    rcases List.mem_append.mp h with h | h
    · exact Or.inr (Or.inr (hlower _ h (by decide)))
    · split at h
      · exact Or.inr (Or.inr (hlower _ h (by decide)))
      · cases h
  | ready load =>
    obtain ⟨hl, hs, hc⟩ := Form.of_mem_loadDeeds h
    refine Or.inr (Or.inr ⟨?_, fun v hv => by rw [hv] at hc; cases hc⟩)
    rcases hl with hl | hl
    · rw [hl]
      exact hs
    · intro he
      rw [he] at hl
      cases hlev : load.level <;> rw [hlev] at hl <;> simp [Level.descendants] at hl
  | waiting p => cases h
  | returned load outcome => cases h
  | ended outcome => cases h

end Activity

end LinkedSelect
