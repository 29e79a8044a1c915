import LinkedSelect.Proofs.Origin
import LinkedSelect.Proofs.Waiting

/-!
# Picking a site erases history

When a site is picked, what was loaded before and what is still on its way no longer matters: the areas and the racks
come to look as the endpoint of the areas, the site and the reply to the one new request say (`Endpoints.areaSight`).

* Picking a site closes the racks and closes the areas, or makes them wait for the new request alone
  (`Session.erased_of_ran`).
* A reply to an earlier request finds no field that waits for it, and the new reply restores nothing, so no call goes on
  (`Session.Erased.release`).
* `Session.site_pick_erases_history`: two forms over the same endpoints, with any histories, look the same after the
  same site was picked and the same reply has come, wherever replies to earlier requests come in between.
-/

namespace LinkedSelect

/-! ## What a host sees -/

/-- What a host sees of a field. -/
structure Sight where
  value : String
  disabled : Bool
  entries : List Entry
  phase : Phase
  outcome : Option Outcome
  deriving DecidableEq

namespace Sight

/-- A disabled field that shows the placeholder alone. -/
def closed (outcome : Option Outcome) : Sight :=
  ⟨"", true, [.placeholder], .disabled, outcome⟩

/-- A field that shows a reply, with nothing selected. -/
def offering (reply : Reply) : Sight :=
  ⟨"", false, Select.entriesOf (Field.choicesOf reply), .populated, some (Field.outcomeOf reply none)⟩

end Sight

/-- What a host sees of a field. -/
def Field.sight (x : Field) : Sight :=
  ⟨x.select.value, x.select.disabled, x.select.entries, x.phase, x.outcome⟩

/-- What areas look like after a site was picked and the request for its areas, if one was sent, was answered. -/
def Endpoints.areaSight (e : Endpoints) (value : String) (reply : Reply) : Sight :=
  if value = "" then .closed none
  else
    match e.areas.filter (· ≠ "") with
    | none => .closed (some .disabled)
    | some _ => .offering reply

namespace Session

variable {σ : Type} {src : Source σ}

/-! ## The picked site -/

/-- The racks are closed, and the areas look as they should; or the request `n` is the one that they wait for, and with
the reply `r` they will. -/
structure Erased (s : Session σ) (n : Nat) (r : Reply) (e : Sight) : Prop where
  racks : s.form.rack.sight = .closed none
  areas : s.form.area.sight = e ∧ (∀ g, s.form.area.phase ≠ .loading g) ∧ (∀ w ∈ s.waiting, w.request ≠ n) ∨
    ∃ w ∈ s.waiting, w.request = n ∧ w.pending.load.level = .area ∧ w.pending.wanted = none ∧
      s.form.area.phase = .loading w.pending.generation ∧ e = .offering r

/-- The load of the areas of a picked site closes them, or makes them wait for the new request. -/
theorem erased_of_ran_ready {s t : Session σ} {number : Nat} {call : Call} {xs : List Section} {value : String}
    {r : Reply} {endpoints : Endpoints} (hn : s.Numbered)
    (hsrc : ∀ q reply, (src.fetch s.source q).1 = some reply → reply = r) (hv : value ≠ "")
    (he : s.form.area.endpoint = endpoints.areas.filter (· ≠ ""))
    (h : Ran src none number call s (.ready ⟨.area, value, false, none⟩) xs t) :
    t.Erased s.requests.length r (endpoints.areaSight value r) := by
  have hfresh : ∀ w ∈ s.waiting, w.request ≠ s.requests.length := fun w hw => Nat.ne_of_lt (hn.request_lt w hw)
  cases h with
  | own _ hr =>
    have ho : s.form.isOutdated ⟨.area, value, false, none⟩ .site = false := rfl
    have hend : s.form.endpoint? .area value = endpoints.areas.filter (· ≠ "") := by
      rw [Form.endpoint?, if_neg hv]
      exact he
    simp only [Activity.advance] at hr
    rcases Form.beginLoad_eq rfl ho with ⟨hnone, hb⟩ | ⟨endpoint, hsome, hb⟩
    · rw [hb] at hr
      obtain ⟨hf, hw⟩ := ran_returned_last (Load.next?_disabled _) hr
      refine ⟨by rw [hf]; rfl, Or.inl ⟨?_, fun g hg => ?_, by rw [hw]; exact hfresh⟩⟩
      · simp only [Endpoints.areaSight, if_neg hv, ← hend, show s.form.endpoint? .area value = none from hnone, hf]
        rfl
      · rw [hf] at hg
        cases hg
    · have hsight : endpoints.areaSight value r = .offering r := by
        simp only [Endpoints.areaSight, if_neg hv, ← hend, show s.form.endpoint? .area value = some endpoint from hsome]
      rw [hb] at hr
      cases hr with
      | own h => cases h
      | holds hfetch =>
        exact ⟨rfl, Or.inr ⟨_, List.mem_append_right _ (List.mem_singleton_self _), rfl, rfl, rfl, rfl, hsight⟩⟩
      | answers hfetch hr =>
        obtain rfl := hsrc _ _ (congrArg Prod.fst hfetch)
        rw [Activity.resume_of_loading (by rfl)] at hr
        obtain ⟨hf, hw⟩ := ran_returned_last (Load.next?_wanted_none _ _) hr
        refine ⟨by rw [hf]; rfl, Or.inl ⟨by rw [hf, hsight]; rfl, fun g hg => ?_, by rw [hw]; exact hfresh⟩⟩
        rw [hf] at hg
        cases hg

/-- Picking a site closes the areas, or makes them wait for the new request. -/
theorem erased_of_ran {s t : Session σ} {number : Nat} {call : Call} {xs : List Section} {value : String}
    {r : Reply} {endpoints : Endpoints} (hn : s.Numbered)
    (hsrc : ∀ q reply, (src.fetch s.source q).1 = some reply → reply = r)
    (he : s.form.area.endpoint = endpoints.areas.filter (· ≠ ""))
    (h : Ran src none number call s (.entered (.siteChanged value)) xs t) :
    t.Erased s.requests.length r (endpoints.areaSight value r) := by
  cases h with
  | own _ hr =>
    simp only [Activity.advance, Activity.enter] at hr
    by_cases hv : value = ""
    · rw [if_pos hv] at hr
      obtain ⟨hf, hw⟩ := ran_ended hr
      refine ⟨by rw [hf]; rfl, Or.inl ⟨?_, fun g hg => ?_, fun w hmem => ?_⟩⟩
      · simp only [Endpoints.areaSight, if_pos hv, hf]
        rfl
      · rw [hf] at hg
        cases hg
      · rw [hw] at hmem
        exact Nat.ne_of_lt (hn.request_lt w hmem)
    · rw [if_neg hv] at hr
      exact erased_of_ran_ready (s := { s with form := s.form.pickSite value }) ⟨hn.request_lt, hn.nodup⟩ hsrc hv he hr

/-! ## Replies after it -/

section Release

variable {s : Session σ} {xs : List Section} {n i : Nat} {r reply : Reply} {e : Sight}

/-- A reply to an earlier request comes too late, and the new reply restores nothing. -/
theorem Erased.release (h : s.Erased n r e) (ho : s.pool.Ordered xs) (hn : s.Numbered) (src : Source σ)
    (hi : i = n → reply = r) : (s.release src i reply).Erased n r e := by
  cases ht : s.take? i with
  | none =>
    rw [release_of_take?_eq_none src ht]
    exact h
  | some taken =>
    obtain ⟨w, t⟩ := taken
    obtain ⟨_, hw, hwi⟩ := waiting_of_take? ht
    by_cases hp : (s.form.get w.pending.load.level).phase = .loading w.pending.generation
    · have hl : w.pending.load.level = .area := by
        cases hl : w.pending.load.level with
        | site => exact absurd hl (level_ne_site ho hw)
        | area => rfl
        | rack =>
          rw [hl, show (s.form.get .rack).phase = .disabled from congrArg Sight.phase h.racks] at hp
          cases hp
      rcases h.areas with ⟨_, hidle, _⟩ | ⟨v, hv, hvn, hvl, hwanted, hph, rfl⟩
      · rw [hl] at hp
        exact absurd hp (hidle _)
      · -- the call is the one that the areas wait for
        have hg : (s.form.get .area).phase = .loading v.pending.generation := hph
        rw [hl, hg] at hp
        obtain rfl : v = w := waiting_eq ho hv hw (hvl.trans hl.symm) (Phase.loading.inj hp)
        obtain rfl : i = n := hwi.symm.trans hvn
        obtain rfl := hi rfl
        obtain ⟨hf, hwaiting⟩ := release_last src ht (by rw [hl]; exact hph)
          (by rw [hwanted]; exact Load.next?_wanted_none _ reply)
        rw [hl, hwanted] at hf
        refine ⟨by rw [hf]; exact h.racks, Or.inl ⟨by rw [hf]; rfl, fun g hg => ?_, fun u hu => ?_⟩⟩
        · rw [hf] at hg
          cases hg
        · rw [hwaiting] at hu
          simpa using (List.mem_filter.mp hu).2
    · obtain ⟨hf, hwaiting⟩ := release_stale src ht hp reply
      refine ⟨by rw [hf]; exact h.racks, ?_⟩
      rw [hf, hwaiting]
      rcases h.areas with ⟨hs, hidle, hno⟩ | ⟨v, hv, hvn, hvl, hwanted, hph, he⟩
      · exact Or.inl ⟨hs, hidle, fun u hu => hno u (List.mem_of_mem_filter hu)⟩
      · refine Or.inr ⟨v, List.mem_filter.mpr ⟨hv, ?_⟩, hvn, hvl, hwanted, hph, he⟩
        simp only [decide_eq_true_eq]
        intro hvi
        rw [eq_of_request_eq hn hw hv (hwi.trans hvi.symm), hvl] at hp
        exact hp hph

end Release

end Session

/-- The event answers a request that was sent before the request `n`, or it answers that one with `r`. -/
def Event.Delivers (n : Nat) (r : Reply) : Event → Prop
  | .release i reply none => i < n ∨ i = n ∧ reply = r
  | _ => False

instance (n : Nat) (r : Reply) : (e : Event) → Decidable (e.Delivers n r)
  | .release _ _ none => inferInstanceAs (Decidable (_ ∨ _ ∧ _))
  | .release _ _ (some _) => .isFalse id
  | .start _ _ => .isFalse id
  | .cancel _ => .isFalse id

namespace Session

variable {σ : Type} {src : Source σ}

/-- Replies after a picked site leave the areas as they are or as they should be. -/
theorem Erased.after {s : Session σ} {xs : List Section} {n : Nat} {r : Reply} {e : Sight} (h : s.Erased n r e)
    (ho : s.pool.Ordered xs) (hn : s.Numbered) (src : Source σ) {late : List Event}
    (hl : ∀ e ∈ late, e.Delivers n r) : (s.after src late).Erased n r e := by
  induction late generalizing s xs with
  | nil => exact h
  | cons event late ih =>
    have hd := hl event List.mem_cons_self
    have hh : Handled src s event _ _ := handled s event
    refine ih ?_ (ho.course (course_handled hh)) (hn.of_handled hh) fun e he => hl e (List.mem_cons_of_mem _ he)
    cases event with
    | release i reply gap =>
      cases gap with
      | some gap => exact absurd hd id
      | none =>
        refine h.release ho hn src fun hi => ?_
        rcases hd with hd | hd
        · omega
        · exact hd.2
    | start call gap => exact absurd hd id
    | cancel number => exact absurd hd id

/-- What a form over these endpoints can come to when, after any history, the site was picked and its request, if one
was sent, got the reply `r`, at once or later, with replies to earlier requests before it and after it. -/
inductive SitePicked (endpoints : Endpoints) (value : String) (r : Reply) : Form → Prop
  | intro {σ : Type} {s t : Session σ} (src₀ src : Source σ) (traffic : Traffic σ) (site area rack : Select)
      (events late : List Event) (hs : s = (fresh traffic site area rack endpoints).after src₀ events)
      (ht : t = (s.start src (.siteChanged value)).after src late)
      (hsrc : ∀ q reply, (src.fetch s.source q).1 = some reply → reply = r)
      (hlate : ∀ e ∈ late, e.Delivers s.requests.length r) (hcame : ∀ w ∈ t.waiting, w.request ≠ s.requests.length) :
      SitePicked endpoints value r t.form

/-- The areas look as the site, the endpoint and the reply say, and the racks are closed. -/
theorem SitePicked.sight {endpoints : Endpoints} {value : String} {r : Reply} {f : Form}
    (h : SitePicked endpoints value r f) :
    f.area.sight = endpoints.areaSight value r ∧ f.rack.sight = .closed none := by
  obtain ⟨src₀, src, traffic, site, area, rack, events, late, rfl, rfl, hsrc, hlate, hcame⟩ := h
  have hc := course_history src₀ (fresh traffic site area rack endpoints) events
  have ho := (fresh_ordered traffic site area rack endpoints).course hc
  have hn := (fresh_numbered traffic site area rack endpoints).after src₀ events
  have he := hc.endpoint_eq .area
  generalize (fresh traffic site area rack endpoints).after src₀ events = s at ho hn he hsrc hlate hcame ⊢
  have hh : Handled src s (.start (.siteChanged value) none) _ (s.start src (.siteChanged value)) := handled s _
  have hpicked : (s.start src (.siteChanged value)).Erased s.requests.length r (endpoints.areaSight value r) :=
    erased_of_ran (s := { s with started := s.started + 1 }) ⟨hn.request_lt, hn.nodup⟩ hsrc he (ran_run ..)
  have hend := hpicked.after (ho.course (course_handled hh)) (hn.of_handled hh) src hlate
  refine ⟨?_, hend.racks⟩
  rcases hend.areas with ⟨hs, _⟩ | ⟨w, hw, hwn, _⟩
  · exact hs
  · exact absurd hwn (hcame w hw)

/-- **Picking a site erases history.** Take two forms over the same endpoints, with any selects and any histories. After
the same site was picked in both and the request for its areas, if one was sent, got the same reply, with replies to
earlier requests in any order around it, the areas look the same in both, and so do the racks. No site leaves the areas
closed, no endpoint leaves them closed for want of it, and otherwise they offer the reply; the racks are closed. -/
theorem site_pick_erases_history {endpoints : Endpoints} {value : String} {r : Reply} {f g : Form}
    (hf : SitePicked endpoints value r f) (hg : SitePicked endpoints value r g) :
    f.area.sight = g.area.sight ∧ f.rack.sight = g.rack.sight ∧
      f.area.sight = endpoints.areaSight value r ∧ f.rack.sight = .closed none := by
  obtain ⟨hfa, hfr⟩ := hf.sight
  obtain ⟨hga, hgr⟩ := hg.sight
  exact ⟨hfa.trans hga.symm, hfr.trans hgr.symm, hfa, hfr⟩

/-- A page that has just come, and one on which an area is to be restored and racks were asked for: on the second one
the earlier replies come before and after the one to the picked site. -/
theorem site_picked_late_replies :
    let endpoints : Endpoints := ⟨some "/areas/", some "/racks/"⟩
    let r : Reply := .ok [⟨.number 13, "B"⟩]
    let first : Session Unit := fresh { source := () } (.new "id_site") (.new "id_area") (.new "id_rack") endpoints
    let second : Session Unit := (fresh { source := () } ((Select.new "id_site").withValue "5")
      ((Select.new "id_area").withData Select.currentValueKey "12") (.new "id_rack") endpoints).after .holding
        [.start .restore none, .start (.load .rack "9" true) none]
    let f := ((first.start .holding (.siteChanged "6")).after .holding [.release 0 r none]).form
    let g := ((second.start .holding (.siteChanged "6")).after .holding
      [.release 0 (.ok [⟨.number 12, "A"⟩]) none, .release 2 r none, .release 1 (.ok [⟨.number 40, "R"⟩]) none]).form
    SitePicked endpoints "6" r f ∧ SitePicked endpoints "6" r g ∧ f.area.sight = g.area.sight ∧
      f.rack.sight = g.rack.sight ∧ f.area.sight = .offering r ∧ f.rack.sight = .closed none := by
  intro endpoints r first second f g
  have hsrc : ∀ q reply, (Source.holding.fetch () q).1 = some reply → reply = r := fun q reply h => by cases h
  have hf : SitePicked endpoints "6" r f :=
    .intro .holding .holding { source := () } _ _ _ [] _ rfl rfl hsrc (by decide +kernel) (by decide +kernel)
  have hg : SitePicked endpoints "6" r g :=
    .intro .holding .holding { source := () } _ _ _ _ _ rfl rfl hsrc (by decide +kernel) (by decide +kernel)
  exact ⟨hf, hg, site_pick_erases_history hf hg⟩

end Session

end LinkedSelect
