import LinkedSelect.Call

/-!
# What replies do

* What is selected among the choices of a reply depends on these and on the value that was wanted alone: the first that
  has this value, if it is not empty, and otherwise the placeholder (`Select.hit?_eq_some_iff`,
  `Select.selected?_populate`).
* The reply that a field waits for is applied (`Activity.resume_of_loading`), and any other reply changes nothing
  (`Activity.resume_of_not_loading`).
* A load goes on one level down only for a value that was restored (`Load.of_next?`), so only areas go on.
-/

namespace LinkedSelect

namespace Select

/-- The placeholder has the empty text, so any other text is found at the first choice that has it. -/
theorem find?_entriesOf {w : String} (hw : w ≠ "") (choices : List Choice) :
    (entriesOf choices).find? (fun e => e.value = w) =
      (choices.find? fun c => c.id.display = w).map .ofChoice := by
  rw [entriesOf, List.find?_cons_of_neg (by simpa [Entry.placeholder] using hw.symm), List.find?_map]
  rfl

/-- A value is restored just if it was wanted, it is not empty, and one of the choices has it. -/
theorem hit?_eq_some_iff {choices : List Choice} {wanted : Option String} {v : String} :
    hit? choices wanted = some v ↔ wanted = some v ∧ v ≠ "" ∧ ∃ c ∈ choices, c.id.display = v := by
  cases wanted with
  | none => simp [hit?]
  | some w =>
    by_cases hw : w = ""
    · rw [hit?, if_pos hw]
      simp only [reduceCtorEq, Option.some.injEq, false_iff]
      rintro ⟨rfl, hv, -⟩
      exact hv hw
    · rw [hit?, if_neg hw, find?_entriesOf hw, Option.map_map]
      cases hc : choices.find? fun c => c.id.display = w with
      | none =>
        have hno : ∀ c ∈ choices, c.id.display ≠ w := by simpa using hc
        simp only [Option.map_none, reduceCtorEq, Option.some.injEq, false_iff]
        rintro ⟨rfl, -, c, hmem, hd⟩
        exact hno c hmem hd
      | some c =>
        have hd : c.id.display = w := by simpa using List.find?_some hc
        simp only [Option.map_some, Option.some.injEq, Function.comp_apply, Entry.ofChoice, hd]
        constructor
        · rintro rfl
          exact ⟨rfl, hw, c, List.mem_of_find?_eq_some hc, hd⟩
        · exact fun h => h.1

/-- A value is restored if it was wanted, and it is not empty. -/
theorem hit?_eq_some {choices : List Choice} {wanted : Option String} {v : String}
    (h : hit? choices wanted = some v) : wanted = some v ∧ v ≠ "" :=
  have ⟨hw, hv, _⟩ := hit?_eq_some_iff.mp h
  ⟨hw, hv⟩

/-- Without choices no value is restored. -/
theorem hit?_nil (wanted : Option String) : hit? [] wanted = none := by
  refine Option.eq_none_iff_forall_ne_some.mpr fun v h => ?_
  obtain ⟨-, -, c, hc, -⟩ := hit?_eq_some_iff.mp h
  cases hc

/-- The first choice with the restored value is selected, and the placeholder where no value is restored. -/
theorem selected?_populate (s : Select) (choices : List Choice) (wanted : Option String) :
    (s.populate choices wanted).selected? =
      match hit? choices wanted with
      | none => some .placeholder
      | some v => (choices.find? fun c => c.id.display = v).map .ofChoice := by
  cases h : hit? choices wanted with
  | none => simp [selected?, populate, h, entriesOf, Entry.placeholder]
  | some v => simp only [selected?, populate, h, Option.getD_some, find?_entriesOf (hit?_eq_some h).2]

end Select

namespace Load

/-- A load goes on one level down for the value that was restored. -/
theorem of_next? {l next : Load} {outcome : Outcome} (h : l.next? outcome = some next) :
    ∃ n, outcome = .populated n (some next.filter) ∧ l.level.child? = some next.level ∧ next.first ≠ none := by
  unfold next? at h
  split at h
  · next n v child hc =>
    cases h
    exact ⟨n, rfl, hc, fun h => by cases h⟩
  · cases h

/-- What restores a value goes on restoring. -/
theorem retain_of_next? {l next : Load} {outcome : Outcome} (h : l.next? outcome = some next) :
    next.retain = l.retain := by
  unfold next? at h
  split at h
  · cases h
    rfl
  · cases h

/-- Areas go on with the racks of the area that was restored. -/
theorem of_next?_area {l next : Load} {reply : Reply} {wanted : Option String} (hl : l.level = .area)
    (h : l.next? (Field.outcomeOf reply wanted) = some next) :
    next.level = .rack ∧ Select.hit? (Field.choicesOf reply) wanted = some next.filter := by
  obtain ⟨n, ho, hc, _⟩ := of_next? h
  rw [hl] at hc
  refine ⟨(Option.some.inj hc).symm, ?_⟩
  cases reply with
  | ok choices => exact (Outcome.populated.inj ho).2
  | error e => cases ho

/-- If areas go on with no racks, none of them was restored. -/
theorem hit?_of_next?_area {l : Load} {reply : Reply} {wanted : Option String} (hl : l.level = .area)
    (h : l.next? (Field.outcomeOf reply wanted) = none) : Select.hit? (Field.choicesOf reply) wanted = none := by
  cases reply with
  | error e => exact Select.hit?_nil wanted
  | ok choices =>
    cases hv : Select.hit? choices wanted with
    | none => exact hv
    | some v => simp [next?, Field.outcomeOf, hv, hl, Level.child?] at h

/-- No load goes on below the racks. -/
theorem next?_rack {l : Load} (hl : l.level = .rack) (outcome : Outcome) : l.next? outcome = none := by
  simp [next?, hl, Level.child?]

theorem next?_disabled (l : Load) : l.next? .disabled = none := by
  simp [next?]

theorem next?_superseded (l : Load) : l.next? .superseded = none := by
  simp [next?]

/-- A load that restores nothing goes on with no other. -/
theorem next?_wanted_none (l : Load) (reply : Reply) : l.next? (Field.outcomeOf reply none) = none := by
  cases reply <;> simp [next?, Field.outcomeOf, Select.hit?]

end Load

namespace Field

theorem outcomeOf_ne_superseded (reply : Reply) (wanted : Option String) : outcomeOf reply wanted ≠ .superseded := by
  cases reply <;> exact fun h => by cases h

end Field

theorem Form.modify_get (f : Form) (l : Level) : (f.modify l fun _ => f.get l) = f := by
  cases l <;> rfl

namespace Activity

/-- The reply that the field waits for is applied. -/
theorem resume_of_loading {f : Form} {p : Pending} (h : (f.get p.load.level).phase = .loading p.generation)
    (reply : Reply) : resume f p reply =
      (f.modify p.load.level (·.resolve reply p.wanted), .returned p.load (Field.outcomeOf reply p.wanted)) := by
  have hf : (f.modify p.load.level fun _ => (f.get p.load.level).resolve reply p.wanted) =
      f.modify p.load.level (·.resolve reply p.wanted) := by
    cases p.load.level <;> rfl
  simp only [resume, Form.receive, Field.finish, h, if_true, hf]

/-- Any other reply changes nothing. -/
theorem resume_of_not_loading {f : Form} {p : Pending} (h : (f.get p.load.level).phase ≠ .loading p.generation)
    (reply : Reply) : resume f p reply = (f, .returned p.load .superseded) := by
  simp only [resume, Form.receive, Field.finish, if_neg h, Form.modify_get]

end Activity

end LinkedSelect
