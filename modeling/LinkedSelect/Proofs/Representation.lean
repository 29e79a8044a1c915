import LinkedSelect.Document
import LinkedSelect.Proofs.Superseding

/-!
# The parts of a field agree

Phase, disabled flag, entries and value of a field are kept apart and changed apart, and a new field takes its phase
from the flag of its select.

* `Field.Consistent` relates the first three. Every change of a field keeps it (`Change.consistent_apply`), and so does
  every reply (`Field.consistent_resolve`).
* A load, a disabling and a reply also leave a value that is on offer (`Field.Offered`); only a pick can take the value
  of an area from outside its entries (`Form.Represents.own`).
* `Session.fields_represented`: both hold in every state of every form that starts over new selects, or over the
  selects of a document into which such forms were written (`Form.Starts`, `Document.Arises`).
-/

namespace LinkedSelect

/-! ## Selects -/

namespace Select

/-- A select as a host makes it. -/
inductive Made : Select → Prop
  | new (id : String) : Made (.new id)
  | withValue {s : Select} (h : Made s) (value : String) : Made (s.withValue value)
  | withData {s : Select} (h : Made s) (key text : String) : Made (s.withData key text)

/-- The placeholder comes first, and it is alone if the select is disabled. -/
structure Tidy (s : Select) : Prop where
  placeholder : s.entries.head? = some .placeholder
  alone : s.disabled = true → s.entries = [.placeholder]

theorem tidy_of_made {s : Select} (h : s.Made) : s.Tidy := by
  induction h with
  | new id => exact ⟨rfl, fun _ => rfl⟩
  | withValue _ value ih => exact ⟨ih.placeholder, ih.alone⟩
  | withData _ key text ih => exact ⟨ih.placeholder, ih.alone⟩

/-- An entry is selected exactly if one has the value of the select. -/
theorem isSome_selected? (s : Select) : s.selected?.isSome = true ↔ ∃ e ∈ s.entries, e.value = s.value := by
  simp [selected?]

/-- Whatever was asked for, a populated select has the value of one of its entries. -/
theorem isSome_selected?_populate (s : Select) (choices : List Choice) (wanted : Option String) :
    (s.populate choices wanted).selected?.isSome = true := by
  rw [isSome_selected?]
  cases hv : hit? choices wanted with
  | none => exact ⟨.placeholder, List.mem_cons_self, by simp [populate, hv, Entry.placeholder]⟩
  | some v =>
    obtain ⟨-, -, c, hc, hd⟩ := hit?_eq_some_iff.mp hv
    have hval : (Entry.ofChoice c).value = (s.populate choices wanted).value := by
      simpa [populate, hv, Entry.ofChoice] using hd
    exact ⟨.ofChoice c, List.mem_cons_of_mem _ (List.mem_map_of_mem hc), hval⟩

end Select

/-! ## One field -/

namespace Field

/-- Phase, flag and entries agree: the select is disabled in the phase of that name, the placeholder comes first, and
unless the field is populated it is alone. -/
structure Consistent (x : Field) : Prop where
  disabled_iff : x.select.disabled = true ↔ x.phase = .disabled
  placeholder : x.select.entries.head? = some .placeholder
  alone : x.phase ≠ .populated → x.select.entries = [.placeholder]

/-- The value of the field is that of one of its entries. -/
def Offered (x : Field) : Prop :=
  x.select.selected?.isSome = true

theorem consistent_new {s : Select} (h : s.Tidy) (endpoint : Option String) : (new s endpoint).Consistent := by
  cases hd : s.disabled with
  | true => exact ⟨by simp [new, hd], h.placeholder, fun _ => h.alone hd⟩
  | false => exact ⟨by simp [new, hd], h.placeholder, fun hp => absurd (by simp [new, hd]) hp⟩

theorem Consistent.tidy {x : Field} (h : x.Consistent) : x.select.Tidy where
  placeholder := h.placeholder
  alone hd := h.alone fun hp => by simp [h.disabled_iff, hp] at hd

theorem consistent_resolve (x : Field) (reply : Reply) (wanted : Option String) :
    (x.resolve reply wanted).Consistent where
  disabled_iff := by simp [resolve, Select.withDisabled]
  placeholder := rfl
  alone h := absurd rfl h

theorem offered_resolve (x : Field) (reply : Reply) (wanted : Option String) : (x.resolve reply wanted).Offered :=
  Select.isSome_selected?_populate x.select _ wanted

end Field

namespace Change

theorem consistent_apply (c : Change) {x : Field} (h : x.Consistent) : (c.apply x).Consistent := by
  cases c with
  | select value => exact ⟨h.disabled_iff, h.placeholder, h.alone⟩
  | forget => exact ⟨h.disabled_iff, h.placeholder, h.alone⟩
  | disable => exact ⟨by simp [apply, Field.disable, Select.withDisabled], rfl, fun _ => rfl⟩
  | decline => exact ⟨by simp [apply, Field.decline, Field.disable, Select.withDisabled], rfl, fun _ => rfl⟩
  | load => exact ⟨by simp [apply, Field.beginLoad, Select.withDisabled], rfl, fun _ => rfl⟩

/-- A load or a disabling selects the placeholder. -/
theorem offered_apply_of_renews {c : Change} (h : c.renews = true) (x : Field) : (c.apply x).Offered := by
  cases c <;> first | rfl | cases h

/-- Only a pick can take the value from outside the entries. -/
theorem offered_apply {c : Change} (hc : ∀ v, c ≠ .select v) {x : Field} (h : x.Offered) : (c.apply x).Offered := by
  cases hr : c.renews with
  | true => exact offered_apply_of_renews hr x
  | false =>
    cases c with
    | select value => exact absurd rfl (hc value)
    | forget => exact h
    | _ => cases hr

end Change

namespace Form

variable {f : Form} {l : Level} {ds : List Deed}

theorem consistent_replay (h : (f.get l).Consistent) (ds : List Deed) : ((f.replay ds).get l).Consistent := by
  induction ds generalizing f with
  | nil => exact h
  | cons d ds ih =>
    refine ih (f := f.perform d) ?_
    rw [get_perform]
    split
    · exact d.change.consistent_apply h
    · exact h

/-- Deeds that pick no value of a level leave its value on offer if it was before, or if they load or disable it. -/
theorem offered_replay (hn : ∀ v, ⟨l, .select v⟩ ∉ ds)
    (h : (f.get l).Offered ∨ ∃ d ∈ ds, d.level = l ∧ d.change.renews = true) : ((f.replay ds).get l).Offered := by
  induction ds generalizing f with
  | nil =>
    rcases h with h | ⟨d, hd, _⟩
    · exact h
    · cases hd
  | cons d ds ih =>
    have hd : d.level = l → ∀ v, d.change ≠ .select v := by
      rintro rfl v hv
      exact hn v (hv ▸ List.mem_cons_self)
    refine ih (f := f.perform d) (fun v hv => hn v (List.mem_cons_of_mem _ hv)) ?_
    rw [get_perform]
    rcases h with h | ⟨e, he, hl, hr⟩
    · left
      split
      · next hl => exact Change.offered_apply (hd hl.symm) h
      · exact h
    · rcases List.mem_cons.mp he with rfl | he
      · rw [if_pos hl.symm]
        exact Or.inl (Change.offered_apply_of_renews hr _)
      · exact Or.inr ⟨e, he, hl, hr⟩

/-- Deeds that neither pick a value of a level nor load or disable it leave its value as it is. -/
theorem value_replay_of_idle (f : Form) (hn : ∀ v, ⟨l, .select v⟩ ∉ ds)
    (hr : ¬∃ d ∈ ds, d.level = l ∧ d.change.renews = true) :
    ((f.replay ds).get l).select.value = (f.get l).select.value := by
  induction ds generalizing f with
  | nil => rfl
  | cons d ds ih =>
    have hi := ih (f.perform d) (fun v hv => hn v (List.mem_cons_of_mem _ hv))
      fun ⟨e, he, h⟩ => hr ⟨e, List.mem_cons_of_mem _ he, h⟩
    rw [replay_cons, hi, get_perform]
    split
    · next hl =>
      obtain ⟨m, c⟩ := d
      subst hl
      cases c with
      | select v => exact absurd List.mem_cons_self (hn v)
      | forget => rfl
      | _ => exact absurd ⟨_, List.mem_cons_self, rfl, rfl⟩ hr
    · rfl

end Form

/-! ## What was picked last -/

/-- The value of a level that a call reports. -/
def Call.picked? (l : Level) : Call → Option String
  | .siteChanged value => if l = .site then some value else none
  | .areaChanged value => if l = .area then some value else none
  | _ => none

/-- The value of a level that was picked in a section. -/
def Section.picked? (l : Level) (x : Section) : Option String :=
  match x.start with
  | .entered call => call.picked? l
  | _ => none

/-- The value of a level that was picked last. -/
def lastPicked? (l : Level) (xs : List Section) : Option String :=
  (xs.filterMap (Section.picked? l)).getLast?

theorem lastPicked?_append (l : Level) (xs ys : List Section) :
    lastPicked? l (xs ++ ys) = (lastPicked? l ys).or (lastPicked? l xs) := by
  simp [lastPicked?, List.filterMap_append, List.getLast?_append]

theorem lastPicked?_singleton (l : Level) (x : Section) : lastPicked? l [x] = x.picked? l := by
  cases h : x.picked? l <;> simp [lastPicked?, h]

namespace Section

variable {x : Section} {l : Level}

/-- A value that was picked in a section is the value after it. -/
theorem Runs.value_of_picked? (hx : x.Runs) {v : String} (h : x.picked? l = some v) :
    (x.after.get l).select.value = v := by
  cases hx with
  | reply => cases h
  | @own number call f a ha =>
    cases a with
    | entered c =>
      cases c with
      | siteChanged value =>
        simp only [picked?, Call.picked?, Option.ite_none_right_eq_some] at h
        obtain ⟨rfl, h⟩ := h
        cases h
        simp only [Activity.advance, Activity.enter]
        split <;> rfl
      | areaChanged value =>
        simp only [picked?, Call.picked?, Option.ite_none_right_eq_some] at h
        obtain ⟨rfl, h⟩ := h
        cases h
        simp only [Activity.advance, Activity.enter]
        split <;> rfl
      | _ => cases h
    | _ => cases h

/-- The deeds of a section pick no value of a level unless the call reports one. -/
theorem not_picks_of_picked? (h : x.picked? l = none) (v : String) : ⟨l, .select v⟩ ∉ x.start.deeds x.before := by
  intro hd
  rcases Activity.of_mem_deeds hd with ⟨w, hs, he⟩ | ⟨w, hs, he⟩ | ⟨_, hn⟩
  · cases he
    simp [picked?, hs, Call.picked?] at h
  · cases he
    simp [picked?, hs, Call.picked?] at h
  · exact hn v rfl

theorem Answers.picked? {p : Pending} {reply : Reply} (h : x.Answers p reply) (l : Level) : x.picked? l = none := by
  simp [Section.picked?, h.1]

end Section

/-! ## The fields of a form -/

/-- The fields after the sections `xs`: their parts agree, a rack that was loaded or disabled has the value of one of
its entries, and an area that was has that or the value that was picked last. -/
structure Form.Represents (f : Form) (xs : List Section) : Prop where
  consistent : ∀ l, (f.get l).Consistent
  rack : (∃ x ∈ xs, x.Renews .rack) → f.rack.Offered
  area : (∃ x ∈ xs, x.Renews .area) → f.area.Offered ∨ lastPicked? .area xs = some f.area.select.value

theorem Form.represents_new {site area rack : Select} (hs : site.Tidy) (ha : area.Tidy) (hr : rack.Tidy)
    (endpoints : Endpoints) : (Form.new site area rack endpoints).Represents [] where
  consistent l := by
    cases l with
    | site => exact Field.consistent_new hs _
    | area => exact Field.consistent_new ha _
    | rack => exact Field.consistent_new hr _
  rack := fun ⟨x, hx, _⟩ => absurd hx List.not_mem_nil
  area := fun ⟨x, hx, _⟩ => absurd hx List.not_mem_nil

namespace Form.Represents

variable {xs : List Section} {x : Section}

/-- A section of a call's own keeps the agreement. -/
theorem own (h : x.before.Represents xs) (hx : x.Runs) (hr : x.reply = none) : x.after.Represents (xs ++ [x]) := by
  obtain ⟨_, hafter, _⟩ := hx.after_eq hr
  have renewed {l : Level} (hren : ∃ y ∈ xs ++ [x], y.Renews l) : (∃ y ∈ xs, y.Renews l) ∨ x.Renews l := by
    obtain ⟨y, hy, hren⟩ := hren
    rcases List.mem_append.mp hy with hy | hy
    · exact Or.inl ⟨y, hy, hren⟩
    · exact Or.inr (List.mem_singleton.mp hy ▸ hren)
  refine ⟨fun l => ?_, fun hren => ?_, fun hren => ?_⟩
  · rw [hafter]
    exact consistent_replay (h.consistent l) _
  · -- no call picks a rack
    have hn : x.picked? .rack = none := by
      cases hs : x.start with
      | entered call => cases call <;> simp [Section.picked?, hs, Call.picked?]
      | _ => simp [Section.picked?, hs]
    show (x.after.get .rack).Offered
    rw [hafter]
    exact offered_replay (Section.not_picks_of_picked? hn) ((renewed hren).imp_left h.rack)
  · show (x.after.get .area).Offered ∨ lastPicked? .area (xs ++ [x]) = some (x.after.get .area).select.value
    rw [lastPicked?_append, lastPicked?_singleton]
    cases hp : x.picked? .area with
    | some v => exact Or.inr (congrArg some (hx.value_of_picked? hp).symm)
    | none =>
      have hn := Section.not_picks_of_picked? hp
      by_cases hnow : x.Renews .area
      · rw [hafter]
        exact Or.inl (offered_replay hn (Or.inr hnow))
      · rcases h.area ((renewed hren).resolve_right hnow) with ho | hv
        · rw [hafter]
          exact Or.inl (offered_replay hn (Or.inl ho))
        · right
          rw [Option.none_or, hv, hafter, value_replay_of_idle _ hn hnow]
          rfl

/-- A section that takes a reply keeps the agreement. -/
theorem answers (h : x.before.Represents xs) (hx : x.Runs) {p : Pending} {reply : Reply} (ha : x.Answers p reply) :
    x.after.Represents (xs ++ [x]) := by
  have renewed {l : Level} (hren : ∃ y ∈ xs ++ [x], y.Renews l) : ∃ y ∈ xs, y.Renews l := by
    obtain ⟨y, hy, hren⟩ := hren
    rcases List.mem_append.mp hy with hy | hy
    · exact ⟨y, hy, hren⟩
    · exact absurd (List.mem_singleton.mp hy ▸ hren) (ha.not_renews l)
  refine ⟨fun l => ?_, fun hren => ?_, fun hren => ?_⟩
  · rcases hx.get_of_answers ha l with he | ⟨_, _, he⟩ <;> rw [he]
    · exact h.consistent l
    · exact Field.consistent_resolve _ _ _
  · show (x.after.get .rack).Offered
    rcases hx.get_of_answers ha .rack with he | ⟨_, _, he⟩ <;> rw [he]
    · exact h.rack (renewed hren)
    · exact Field.offered_resolve _ _ _
  · show (x.after.get .area).Offered ∨ lastPicked? .area (xs ++ [x]) = some (x.after.get .area).select.value
    rw [lastPicked?_append, lastPicked?_singleton, ha.picked? .area, Option.none_or]
    rcases hx.get_of_answers ha .area with he | ⟨_, _, he⟩ <;> rw [he]
    · exact h.area (renewed hren)
    · exact Or.inl (Field.offered_resolve _ _ _)

theorem act (h : x.before.Represents xs) (hx : x.Runs) : x.after.Represents (xs ++ [x]) := by
  rcases hx.own_or_answers with hr | ⟨p, reply, ha⟩
  · exact h.own hx hr
  · exact h.answers hx ha

/-- Every course keeps the agreement. -/
theorem course {idle : Activity → Prop} {p q : Pool} {ys : List Section} (h : p.form.Represents xs)
    (hc : Course idle p ys q) : q.form.Represents (xs ++ ys) := by
  induction hc with
  | nil => rw [List.append_nil]; exact h
  | start _ _ _ ih => exact ih
  | leave _ _ _ ih => exact ih
  | act _ hx hb _ _ ih =>
    rw [← List.append_assoc]
    exact act (hb ▸ ih) hx

end Form.Represents

/-! ## Documents and the forms over them -/

mutual

/-- A document of selects that a host has made, into which any forms were written that started over such selects or
over such documents, whatever their sources answered. -/
inductive Document.Arises : Document → Prop
  | empty : Document.Arises .empty
  | insert {d : Document} {s : Select} (h : Document.Arises d) (hs : s.Made) : Document.Arises (d.insert s)
  | sync {d : Document} {f : Form} (h : Document.Arises d) (hf : Form.Starts f) {σ : Type} (src : Source σ)
      (traffic : Traffic σ) (events : List Event) :
      Document.Arises (d.sync (Session.after src { traffic with form := f } events).form)

/-- A form as it starts: over three selects that a host has made, or attached to a document. -/
inductive Form.Starts : Form → Prop
  | new {site area rack : Select} (hs : site.Made) (ha : area.Made) (hr : rack.Made) (endpoints : Endpoints) :
      Form.Starts (.new site area rack endpoints)
  | attach {d : Document} {f : Form} (h : Document.Arises d) (hf : d.attach = some f) : Form.Starts f

end

/-- What attaching a document comes to. -/
theorem Document.attach_eq_some {d : Document} {f : Form} (h : d.attach = some f) :
    ∃ site area rack, d.get? Level.site.elementId = some site ∧ d.get? Level.area.elementId = some area ∧
      d.get? Level.rack.elementId = some rack ∧ f = .new site area rack (endpointsOf site area) := by
  simp only [attach, Option.bind_eq_bind, Option.bind_eq_some_iff] at h
  obtain ⟨site, hs, area, ha, rack, hr, h⟩ := h
  exact ⟨site, area, rack, hs, ha, hr, (Option.some.inj h).symm⟩

/-- Every state of a form whose parts agree at the start has tidy selects. -/
theorem Form.Represents.tidy_after {f : Form} (h : f.Represents []) {σ : Type} (src : Source σ)
    (traffic : Traffic σ) (events : List Event) (l : Level) :
    ((Session.after src { traffic with form := f } events).form.get l).select.Tidy :=
  ((h.course (Session.course_history src { traffic with form := f } events)).consistent l).tidy

/-- Every select of the document is tidy. -/
def Document.Tidy (d : Document) : Prop :=
  ∀ id s, d.get? id = some s → s.Tidy

theorem Document.Tidy.insert {d : Document} {s : Select} (h : d.Tidy) (hs : s.Tidy) : (d.insert s).Tidy := by
  intro id t ht
  rw [Document.get?_insert] at ht
  split at ht
  · cases ht
    exact hs
  · exact h id t ht

theorem Document.Tidy.sync {d : Document} {f : Form} (h : d.Tidy) (hf : ∀ l, (f.get l).select.Tidy) :
    (d.sync f).Tidy :=
  ((h.insert (hf .site)).insert (hf .area)).insert (hf .rack)

theorem Document.Tidy.attach {d : Document} {f : Form} (h : d.Tidy) (hf : d.attach = some f) : f.Represents [] := by
  obtain ⟨site, area, rack, hs, ha, hr, rfl⟩ := Document.attach_eq_some hf
  exact Form.represents_new (h _ _ hs) (h _ _ ha) (h _ _ hr) _

mutual

theorem Document.Arises.tidy : ∀ {d : Document}, d.Arises → d.Tidy
  | _, .empty => fun _ _ hs => by cases hs
  | _, .insert h hs => h.tidy.insert (Select.tidy_of_made hs)
  | _, .sync h hf src traffic events => h.tidy.sync (hf.represents.tidy_after src traffic events)

theorem Form.Starts.represents : ∀ {f : Form}, f.Starts → f.Represents []
  | _, .new hs ha hr endpoints =>
    Form.represents_new (Select.tidy_of_made hs) (Select.tidy_of_made ha) (Select.tidy_of_made hr) endpoints
  | _, .attach h hf => h.tidy.attach hf

end

namespace Session

variable {σ : Type}

/-- **The parts of every field agree.** Let a form start over selects that a host has made, or over a document into
which such forms were written. Whatever calls are started, in gaps too, and whatever replies come and calls are
dropped: after the events and after every section, each select is disabled exactly in the phase of that name, its first
entry is the placeholder, which is alone unless the field is populated; a rack that was loaded or disabled has the value
of one of its entries, and an area that was has that or the value that was picked last. -/
theorem fields_represented (src : Source σ) (traffic : Traffic σ) {f : Form} (hf : f.Starts)
    (events : List Event) :
    let s : Session σ := { traffic with form := f }
    (s.after src events).form.Represents (s.history src events) ∧
      ∀ us x vs, s.history src events = us ++ x :: vs → x.after.Represents (us ++ [x]) := by
  intro s
  have hs : s.pool.form.Represents [] := hf.represents
  have hc := course_history src s events
  refine ⟨hs.course hc, fun us x vs hxs => ?_⟩
  rw [hxs] at hc
  obtain ⟨q, others, hq, hb, hx, _, _, _⟩ := hc.cut
  exact Form.Represents.act (hb ▸ hs.course hq) hx

/-- A page with a site and the endpoints of its areas and their racks. -/
def sitePage : Document :=
  .ofList [((Select.new "id_site").withValue "5").withData Document.areasKey "/areas/",
    (Select.new "id_area").withData Document.racksKey "/racks/", .new "id_rack"]

/-- The form of that page. -/
def sitePageForm : Form :=
  .new (((Select.new "id_site").withValue "5").withData Document.areasKey "/areas/")
    ((Select.new "id_area").withData Document.racksKey "/racks/") (.new "id_rack") ⟨some "/areas/", some "/racks/"⟩

/-- The same page after an area was loaded into its form and the form was written back. -/
def loadedPage : Document :=
  sitePage.sync (after .holding { source := (), form := sitePageForm }
    [.start .restore none, .release 0 (.ok [⟨.number 12, "A"⟩]) none]).form

/-- The form of the page as it was written back. -/
def loadedPageForm : Form :=
  loadedPage.attach.getD sitePageForm

/-- On a page that was attached again, an area that is not on offer is picked while the areas are loaded. -/
theorem loadedPage_represented :
    let s := after .holding { source := (), form := loadedPageForm }
      [.start .restore none, .start (.areaChanged "77") none]
    loadedPage.attach = some loadedPageForm ∧ loadedPageForm.area.select.entries.length = 2 ∧
      s.form.area.phase = .loading 1 ∧ s.form.area.select.value = "77" ∧ ¬s.form.area.Offered ∧
      s.form.area.select.entries = [.placeholder] ∧ s.form.area.select.disabled = false ∧ s.form.rack.Offered := by
  intro s
  have hattach : loadedPage.attach = some loadedPageForm := by decide +kernel
  have hphase : s.form.area.phase = .loading 1 := by decide +kernel
  have hrack : ∃ x ∈ history .holding { source := (), form := loadedPageForm }
      [.start .restore none, .start (.areaChanged "77") none], x.Renews .rack := by decide +kernel
  have hpage : sitePage.Arises :=
    .insert (.insert (.insert .empty (.withData (.withValue (.new _) _) _ _)) (.withData (.new _) _ _)) (.new _)
  have hstarts : loadedPageForm.Starts :=
    .attach (.sync hpage (.attach hpage (show sitePage.attach = some sitePageForm by decide +kernel)) _ _ _) hattach
  have h : s.form.Represents _ := (fields_represented .holding { source := () } hstarts _).1
  have harea := h.consistent .area
  refine ⟨hattach, by decide +kernel, hphase, by decide +kernel, by unfold Field.Offered; decide +kernel, ?_, ?_,
    h.rack hrack⟩
  · refine harea.alone fun hp => ?_
    rw [show s.form.get .area = s.form.area from rfl, hphase] at hp
    cases hp
  · refine Bool.eq_false_iff.mpr fun hd => ?_
    have hp := harea.disabled_iff.mp hd
    rw [show s.form.get .area = s.form.area from rfl, hphase] at hp
    cases hp

end Session

end LinkedSelect
