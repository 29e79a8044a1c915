import LinkedSelect.Proofs.Representation

/-!
# What runs leave alone, and writing back

A site changes by the picks of its value only. Of a lower field a run leaves the id, the endpoint and every attribute
but the value to be restored, and that one is never set again once it is empty.

* `Form.Frames f g xs` says so of what the sections `xs` change from `f` to `g`; stretches of a run compose
  (`Form.Frames.trans`), and every course is one (`Course.frames`).
* Since ids and endpoints stay, a form that is written back to its document takes the places it came from, and
  attaching the document again gives the same selects and endpoints (`Session.frame_and_reattach`).
-/

namespace LinkedSelect

/-! ## One field -/

namespace Field

/-- What every run leaves of a field from one moment (`x`) to a later one (`y`). -/
structure Keeps (x y : Field) : Prop where
  id : y.select.id = x.select.id
  endpoint : y.endpoint = x.endpoint
  data : ∀ key, key ≠ Select.currentValueKey → y.select.data? key = x.select.data? key
  current : y.select.currentValue = x.select.currentValue ∨ y.select.currentValue = ""

variable {x y z : Field}

theorem Keeps.refl (x : Field) : x.Keeps x :=
  ⟨rfl, rfl, fun _ _ => rfl, Or.inl rfl⟩

theorem Keeps.trans (h₁ : x.Keeps y) (h₂ : y.Keeps z) : x.Keeps z where
  id := h₂.id.trans h₁.id
  endpoint := h₂.endpoint.trans h₁.endpoint
  data key hk := (h₂.data key hk).trans (h₁.data key hk)
  current := by
    rcases h₂.current with h | h
    · rw [h]
      exact h₁.current
    · exact Or.inr h

theorem keeps_clearRetained (x : Field) : x.Keeps x.clearRetained where
  id := rfl
  endpoint := rfl
  data key hk := by simp [clearRetained, Select.withData, Select.data?, Dataset.get?_set, hk]
  current := by simp [clearRetained, Select.withData, Select.currentValue, Select.data?, Dataset.get?_set]

theorem keeps_resolve (x : Field) (reply : Reply) (wanted : Option String) : x.Keeps (x.resolve reply wanted) :=
  ⟨rfl, rfl, fun _ _ => rfl, Or.inl rfl⟩

end Field

theorem Change.keeps_apply (c : Change) (x : Field) : x.Keeps (c.apply x) := by
  cases c with
  | forget => exact x.keeps_clearRetained
  | _ => exact ⟨rfl, rfl, fun _ _ => rfl, Or.inl rfl⟩

namespace Form

theorem keeps_replay (f : Form) (ds : List Deed) (l : Level) : (f.get l).Keeps ((f.replay ds).get l) := by
  induction ds generalizing f with
  | nil => exact .refl _
  | cons d ds ih =>
    refine Field.Keeps.trans ?_ (ih (f.perform d))
    rw [get_perform]
    split
    · exact d.change.keeps_apply _
    · exact .refl _

/-- Deeds below the sites leave the sites as they are. -/
theorem site_replay (f : Form) {ds : List Deed} (h : ∀ d ∈ ds, d.level ≠ .site) : (f.replay ds).site = f.site := by
  induction ds generalizing f with
  | nil => rfl
  | cons d ds ih =>
    rw [List.forall_mem_cons] at h
    have hd : (f.perform d).get .site = f.get .site := by rw [get_perform, if_neg (Ne.symm h.1)]
    rw [replay_cons, ih _ h.2]
    exact hd

/-- What a stretch `xs` of a run may have changed: of the site the value alone, which is the one that was picked last,
and of every level only what a run does not keep. -/
structure Frames (f g : Form) (xs : List Section) : Prop where
  site : g.site = f.site.withValue ((lastPicked? .site xs).getD f.site.select.value)
  levels : ∀ l, (f.get l).Keeps (g.get l)

theorem Frames.refl (f : Form) : f.Frames f [] :=
  ⟨rfl, fun _ => .refl _⟩

theorem Frames.trans {f g h : Form} {xs ys : List Section} (h₁ : f.Frames g xs) (h₂ : g.Frames h ys) :
    f.Frames h (xs ++ ys) where
  site := by
    rw [h₂.site, h₁.site, lastPicked?_append]
    cases lastPicked? .site ys <;> rfl
  levels l := (h₁.levels l).trans (h₂.levels l)

end Form

/-! ## Runs -/

/-- A section changes nothing else. -/
theorem Section.Runs.frames {x : Section} (hx : x.Runs) (hidle : ∀ g, x.before.site.phase ≠ .loading g) :
    x.before.Frames x.after [x] := by
  rcases hx.own_or_answers with hr | ⟨p, reply, ha⟩
  · obtain ⟨_, hafter, _⟩ := hx.after_eq hr
    refine ⟨?_, fun l => hafter ▸ Form.keeps_replay _ _ l⟩
    rw [lastPicked?_singleton]
    by_cases hs : ∃ v, x.start = .entered (.siteChanged v)
    · obtain ⟨v, hs⟩ := hs
      have hp : x.picked? .site = some v := by simp [Section.picked?, hs, Call.picked?]
      rw [hp, hafter, Activity.replay_deeds, hs]
      simp only [Activity.advance, Activity.enter, Option.getD_some]
      split <;> rfl
    · have hp : x.picked? .site = none := by
        cases hc : x.start with
        | entered call =>
          cases call with
          | siteChanged v => exact absurd ⟨v, hc⟩ hs
          | _ => simp [Section.picked?, hc, Call.picked?]
        | _ => simp [Section.picked?, hc]
      rw [hp, hafter, Form.site_replay _ fun d hd => ?_]
      · rfl
      · rcases Activity.of_mem_deeds hd with ⟨v, he, _⟩ | ⟨v, _, rfl⟩ | ⟨hl, _⟩
        · exact absurd ⟨v, he⟩ hs
        · exact fun h => by cases h
        · exact hl
  · refine ⟨?_, fun l => ?_⟩
    · rw [lastPicked?_singleton, ha.picked? .site]
      rcases hx.get_of_answers ha .site with he | ⟨_, hp, _⟩
      · exact he
      · exact absurd hp (hidle _)
    · rcases hx.get_of_answers ha l with he | ⟨_, _, he⟩ <;> rw [he]
      · exact .refl _
      · exact Field.keeps_resolve _ _ _

/-- Every course changes nothing else. -/
theorem Course.frames {idle : Activity → Prop} {p q : Pool} {xs : List Section} (h : Course idle p xs q)
    (hidle : ∀ g, p.form.site.phase ≠ .loading g) : p.form.Frames q.form xs := by
  induction h with
  | nil => exact .refl _
  | start _ _ _ ih => exact ih
  | leave _ _ _ ih => exact ih
  | act _ hx hb _ _ ih =>
    refine ih.trans ?_
    rw [← hb] at ih ⊢
    exact hx.frames fun g hg => hidle g (by rw [ih.site] at hg; exact hg)

/-! ## Documents -/

namespace Document

theorem id_of_get? {d : Document} {id : String} {s : Select} (h : d.get? id = some s) : s.id = id := by
  simpa using List.find?_some h

theorem put_of_find? {s : Select} {selects : List Select} (h : selects.find? (·.id = s.id) = some s) :
    put s selects = selects := by
  induction selects with
  | nil => cases h
  | cons t rest ih =>
    by_cases ht : t.id = s.id
    · have hts : t = s := by simpa [ht] using h
      rw [put, if_pos ht, hts]
    · rw [put, if_neg ht, ih (by simpa [ht] using h)]

/-- Inserting a select that is there already changes nothing. -/
theorem insert_of_get? {d : Document} {s : Select} (h : d.get? s.id = some s) : d.insert s = d :=
  congrArg Document.mk (put_of_find? h)

variable {d : Document} {f : Form}

/-- Writing a form back puts its selects where their levels have their places. -/
theorem get?_sync (d : Document) (hf : ∀ l, (f.get l).select.id = l.elementId) (l : Level) :
    (d.sync f).get? l.elementId = some (f.get l).select := by
  cases l <;>
    simp [sync, Level.all, get?_insert, hf .site, hf .area, hf .rack, Level.elementId]

/-- Writing a form back leaves the other selects as they are. -/
theorem get?_sync_of_ne (d : Document) (hf : ∀ l, (f.get l).select.id = l.elementId) {id : String}
    (hid : ∀ l : Level, l.elementId ≠ id) : (d.sync f).get? id = d.get? id := by
  simp [sync, Level.all, get?_insert, hf .site, hf .area, hf .rack, hid]

/-- Writing a form back twice is writing it back once. -/
theorem sync_sync (d : Document) (hf : ∀ l, (f.get l).select.id = l.elementId) : (d.sync f).sync f = d.sync f := by
  have hins : ∀ l, (d.sync f).insert (f.get l).select = d.sync f := fun l =>
    insert_of_get? (by rw [hf l]; exact get?_sync d hf l)
  show (((d.sync f).insert (f.get .site).select).insert (f.get .area).select).insert (f.get .rack).select = _
  rw [hins, hins, hins]

theorem attach_of_get? {site area rack : Select} (hs : d.get? Level.site.elementId = some site)
    (ha : d.get? Level.area.elementId = some area) (hr : d.get? Level.rack.elementId = some rack) :
    d.attach = some (.new site area rack (endpointsOf site area)) := by
  simp [attach, hs, ha, hr]

/-- Selects with the same attributes but for the value to be restored carry the same endpoints. -/
theorem endpointsOf_congr {g : Form} (h : ∀ l, (f.get l).Keeps (g.get l)) :
    endpointsOf g.site.select g.area.select = endpointsOf f.site.select f.area.select := by
  have hs := (h .site).data areasKey (by decide)
  have ha := (h .area).data racksKey (by decide)
  simp only [Form.get] at hs ha
  simp only [endpointsOf, hs, ha]

end Document

/-- The selects of an attached form have the ids of their levels, and the endpoints are those that they carry. -/
theorem Document.of_attach {d : Document} {f : Form} (h : d.attach = some f) :
    (∀ l, (f.get l).select.id = l.elementId) ∧
      f = .new f.site.select f.area.select f.rack.select (endpointsOf f.site.select f.area.select) := by
  obtain ⟨site, area, rack, hs, ha, hr, rfl⟩ := attach_eq_some h
  refine ⟨fun l => ?_, rfl⟩
  cases l with
  | site => exact id_of_get? hs
  | area => exact id_of_get? ha
  | rack => exact id_of_get? hr

namespace Session

variable {σ : Type}

/-- **What runs leave alone, and writing back.** Let a document be attached and let calls start, in gaps too, replies
come and calls be dropped. Between any two moments, the end included, the site changes in its value alone, which is the
one that was picked last; ids, endpoints and all attributes but the values to be restored stay as they are, and those
stay too or become empty. So writing the form back puts its selects in the places of the three levels and changes no
other select, doing it again changes nothing, and attaching the document again gives a form over the same selects with
the same endpoints. -/
theorem frame_and_reattach (src : Source σ) (traffic : Traffic σ) {d : Document} {f : Form} (hd : d.attach = some f)
    (events : List Event) :
    let s : Session σ := { traffic with form := f }
    let g := (s.after src events).form
    let xs := s.history src events
    (f.Frames g xs ∧ ∀ us x vs, xs = us ++ x :: vs → f.Frames x.after (us ++ [x]) ∧ x.after.Frames g vs ∧
      ∀ ws y zs, vs = ws ++ y :: zs → x.after.Frames y.after (ws ++ [y])) ∧
    (∀ l, (d.sync g).get? l.elementId = some (g.get l).select) ∧
    (∀ id, (∀ l : Level, l.elementId ≠ id) → (d.sync g).get? id = d.get? id) ∧
    (d.sync g).sync g = d.sync g ∧
    let endpoints := Document.endpointsOf f.site.select f.area.select
    f = .new f.site.select f.area.select f.rack.select endpoints ∧
      (d.sync g).attach = some (.new g.site.select g.area.select g.rack.select endpoints) := by
  intro s g xs
  have hc : Course _ s.pool xs (s.after src events).pool := course_history src s events
  obtain ⟨hids, hnew⟩ := Document.of_attach hd
  have hidle : ∀ i, f.site.phase ≠ .loading i := by
    rw [hnew]
    exact Field.phase_new _ _
  have hframes : f.Frames g xs := hc.frames hidle
  have hgids : ∀ l, (g.get l).select.id = l.elementId := fun l => (hframes.levels l).id.trans (hids l)
  refine ⟨⟨hframes, fun us x vs hxs => ?_⟩, Document.get?_sync d hgids, fun id => Document.get?_sync_of_ne d hgids,
    Document.sync_sync d hgids, hnew, ?_⟩
  · rw [hxs] at hc
    obtain ⟨q, others, hus, hb, hx, ht, hi, hvs⟩ := hc.cut
    have hact : Course _ s.pool (us ++ [x]) _ := hus.act hx hb.symm ht hi
    have hfirst : f.Frames x.after (us ++ [x]) := hact.frames hidle
    have hidlex : ∀ i, x.after.site.phase ≠ .loading i := fun i h => hidle i (by rw [hfirst.site] at h; exact h)
    refine ⟨hfirst, hvs.frames hidlex, fun ws y zs hvs' => ?_⟩
    rw [hvs'] at hvs
    obtain ⟨r, others', hws, hb', hy, ht', hi', _⟩ := hvs.cut
    exact (hws.act hy hb'.symm ht' hi').frames hidlex
  · refine (Document.attach_of_get? (Document.get?_sync d hgids .site) (Document.get?_sync d hgids .area)
      (Document.get?_sync d hgids .rack)).trans ?_
    exact congrArg (fun e => some (Form.new g.site.select g.area.select g.rack.select e))
      (Document.endpointsOf_congr hframes.levels)

/-- A page on which an area is to be restored, with one more select. -/
def namedPage : Document :=
  .ofList [((Select.new "id_site").withValue "5").withData Document.areasKey "/areas/",
    ((Select.new "id_area").withData Document.racksKey "/racks/").withData Select.currentValueKey "12",
    .new "id_rack", (Select.new "id_name").withValue "N"]

/-- The form of that page. -/
def namedPageForm : Form :=
  .new (((Select.new "id_site").withValue "5").withData Document.areasKey "/areas/")
    (((Select.new "id_area").withData Document.racksKey "/racks/").withData Select.currentValueKey "12")
    (.new "id_rack") ⟨some "/areas/", some "/racks/"⟩

/-- The area is asked for to be restored, another site is picked meanwhile, and the form is written back while it
waits: the area is not to be restored any more, and the endpoints are found again. -/
theorem namedPage_reattaches :
    let g := (after .holding { source := (), form := namedPageForm }
      [.start .restore none, .start (.siteChanged "6") none]).form
    namedPage.attach = some namedPageForm ∧ namedPageForm.area.select.currentValue = "12" ∧
      g.site = namedPageForm.site.withValue "6" ∧ g.area.select.currentValue = "" ∧
      (namedPage.sync g).get? "id_name" = some ((Select.new "id_name").withValue "N") ∧
      (namedPage.sync g).attach =
        some (.new g.site.select g.area.select g.rack.select ⟨some "/areas/", some "/racks/"⟩) := by
  intro g
  have hd : namedPage.attach = some namedPageForm := by decide +kernel
  have hpicked : lastPicked? .site (history .holding { source := (), form := namedPageForm }
      [.start .restore none, .start (.siteChanged "6") none]) = some "6" := by decide +kernel
  obtain ⟨⟨hframes, _⟩, _, hothers, _, _, hattach⟩ :=
    frame_and_reattach .holding { source := () } hd [.start .restore none, .start (.siteChanged "6") none]
  have hsite := hframes.site
  rw [hpicked] at hsite
  refine ⟨hd, by decide +kernel, hsite, by decide +kernel, ?_, ?_⟩
  · refine (hothers "id_name" fun l => ?_).trans (by decide +kernel)
    cases l <;> decide
  · exact hattach.trans (congrArg (fun e => some (Form.new g.site.select g.area.select g.rack.select e))
      (by decide +kernel))

end Session

end LinkedSelect
