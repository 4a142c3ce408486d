import FormEngine.Proofs.Snapshot.Ordered
import FormEngine.Proofs.Update.Dependence

/-!
# Independent edits

The update of a field changes no value that the cone of an independent field reads
(`agreeOnCone_update`). So each of two independent updates does what it does on its own, in either
order, and each leaves alone what the other makes (`independent_updates_commute`).
-/

namespace FormEngine

namespace RuleGraph

/-- No rule follows both fields, neither field is set by what follows the other, and nothing is a
target of both. -/
structure Independent (g : RuleGraph) (field other : String) : Prop where
  ne : field ≠ other
  rules : ∀ id, g.Cone field id → ¬ g.Cone other id
  field_unset : ¬ g.ConeSets other field
  other_unset : ¬ g.ConeSets field other
  targets : ∀ id, g.ConeTargets field id → ¬ g.ConeTargets other id

theorem Independent.symm {g : RuleGraph} {field other : String} (h : g.Independent field other) :
    g.Independent other field :=
  ⟨h.ne.symm, fun id hother hfield => h.rules id hfield hother, h.other_unset, h.field_unset,
    fun id hother hfield => h.targets id hfield hother⟩

theorem Independent.of_closed {g : RuleGraph} {field other : String} (hne : field ≠ other)
    (ids others : List String) (hids : ∀ id ∈ g.rulesFor field, id ∈ ids)
    (hids' : ∀ a ∈ ids, ∀ b ∈ g.fedBy a, b ∈ ids)
    (hothers : ∀ id ∈ g.rulesFor other, id ∈ others)
    (hothers' : ∀ a ∈ others, ∀ b ∈ g.fedBy a, b ∈ others)
    (hdisjoint : ∀ id ∈ ids, id ∉ others)
    (htargets : ∀ id ∈ field :: g.targetsOf ids, id ∉ other :: g.targetsOf others) :
    g.Independent field other where
  ne := hne
  rules id hid hid' :=
    hdisjoint id (hid.mem_of_closed hids hids') (hid'.mem_of_closed hothers hothers')
  field_unset hset := htargets field List.mem_cons_self
    (List.mem_cons_of_mem _ (hset.targets.mem_of_closed hothers hothers'))
  other_unset hset := htargets other
    (List.mem_cons_of_mem _ (hset.targets.mem_of_closed hids hids')) List.mem_cons_self
  targets id hid hid' := htargets id (List.mem_cons_of_mem _ (hid.mem_of_closed hids hids'))
    (List.mem_cons_of_mem _ (hid'.mem_of_closed hothers hothers'))

end RuleGraph

namespace Snapshot

open RuleGraph

variable {s t : Snapshot} {field other : String} {v w : Value}

/-! ## The second of two updates -/

/-- An update leaves the values alone that the cone of an independent field reads, and so does the
edit of that field. -/
theorem agreeOnCone_update (hs : s.form.Loaded) (hind : s.form.graph.Independent field other)
    (ht : s.update field v = .ok t) (w : Value) :
    s.form.graph.AgreeOnCone other (s.edited other w).values (t.edited other w).values := by
  intro key hreads
  show (s.values.insert other w).get? key = (t.values.insert other w).get? key
  rw [Dict.get?_insert, Dict.get?_insert]
  split
  · rfl
  · refine (get?_update_of_not_coneSets hs ht ?_ fun hkey hset => ?_).symm
    · rintro rfl
      rcases hreads with hkey | ⟨id, hid, hcone⟩ | hset
      · rw [(update_eq_ok_iff.1 ht).1] at hkey
        cases hkey
      · exact hind.rules id (.start hid) hcone
      · exact hind.field_unset hset
    · rcases hreads with hno | ⟨id, hid, hcone⟩ | hset'
      · rw [hkey] at hno
        cases hno
      · refine hind.rules id ?_ hcone
        rw [hs.graph] at hset hid ⊢
        exact hset.cone_of_mem_rulesFor hs.named hid
      · exact hind.targets key hset.targets hset'.targets

/-- After the update of an independent field a cascade does what it does before it. -/
theorem cascadeOf_update (hs : s.form.Loaded) (hnames : s.form.graph.ReadsByName)
    (hind : s.form.graph.Independent field other) (ht : s.update field v = .ok t) (w : Value) :
    (t.cascadeOf other w).SameEffect (s.cascadeOf other w) := by
  have hform := form_update ht
  unfold cascadeOf
  rw [hform]
  refine cascade_congr (s := s.edited other w) hs hnames hform (agreeOnCone_update hs hind ht w) ?_
  intro key hkey id hid
  rw [List.mem_singleton.1 hkey] at hid
  exact .start hid

theorem exists_update_iff :
    (∃ t, s.update field v = .ok t) ↔ s.form.graph.hasField field = true ∧
      s.form.discards (s.updateWarnings field (s.cascadeOf field v)) = false := by
  constructor
  · rintro ⟨t, ht⟩
    obtain ⟨hfield, hkept, -⟩ := update_eq_ok_iff.1 ht
    exact ⟨hfield, hkept⟩
  · rintro ⟨hfield, hkept⟩
    exact ⟨_, update_eq_ok_iff.2 ⟨hfield, hkept, rfl⟩⟩

theorem exists_update_after_iff (hs : s.form.Loaded) (hnames : s.form.graph.ReadsByName)
    (hind : s.form.graph.Independent field other) (ht : s.update field v = .ok t) :
    (∃ u, t.update other w = .ok u) ↔ ∃ u, s.update other w = .ok u := by
  have hsame := cascadeOf_update hs hnames hind ht w
  rw [exists_update_iff, exists_update_iff, updateWarnings, updateWarnings, form_update ht,
    hsame.warnings, hsame.limited]

/-- Two independent updates succeed just where each does on its own. -/
theorem exists_updates_iff (hs : s.form.Loaded) (hnames : s.form.graph.ReadsByName)
    (hind : s.form.graph.Independent field other) :
    (∃ u, (s.update field v >>= (·.update other w)) = .ok u) ↔
      (∃ t, s.update field v = .ok t) ∧ ∃ t, s.update other w = .ok t := by
  constructor
  · rintro ⟨u, hu⟩
    obtain ⟨t, ht, hu⟩ := bind_eq_ok_iff.1 hu
    exact ⟨⟨t, ht⟩, (exists_update_after_iff hs hnames hind ht).1 ⟨u, hu⟩⟩
  · rintro ⟨⟨t, ht⟩, hother⟩
    obtain ⟨u, hu⟩ := (exists_update_after_iff hs hnames hind ht).2 hother
    exact ⟨u, bind_eq_ok_iff.2 ⟨t, ht, hu⟩⟩

/-- Where the second of two independent updates changes nothing, the first has done the same in
either order. -/
theorem same_outside_cone (hs : s.form.Loaded) (hnames : s.form.graph.ReadsByName)
    (hind : s.form.graph.Independent field other) {t t' u u' : Snapshot}
    (ht : s.update field v = .ok t) (hu : t.update other w = .ok u)
    (ht' : s.update other w = .ok t') (hu' : t'.update field v = .ok u') :
    (∀ id, ¬ s.form.graph.ConeTargets other id → u.cell id = u'.cell id) ∧
      ∀ key, key ≠ other → ¬ s.form.graph.ConeSets other key →
        u.values.get? key = u'.values.get? key := by
  have hform := form_update ht
  have hform' := form_update ht'
  have hactions := (cascadeOf_update hs hnames hind.symm ht' v).actions
  rw [update_eq_applyAll hu', hactions]
  constructor
  · intro id hid
    have hsecond : u.cell id = t.cell id :=
      cell_update_of_not_coneTargets (by rwa [hform]) hu (by rwa [hform])
    have hfirst : t'.cell id = s.cell id := cell_update_of_not_coneTargets hs ht' hid
    rw [hsecond, update_eq_applyAll ht]
    exact cell_applyAll_congr (s := s.edited field v) (t := t'.edited field v) hfirst.symm _
  · intro key hkey hset
    have hsecond : u.values.get? key = t.values.get? key :=
      get?_update_of_not_coneSets (by rwa [hform]) hu hkey fun _ => by rwa [hform]
    have hfirst : t'.values.get? key = s.values.get? key :=
      get?_update_of_not_coneSets hs ht' hkey fun _ => hset
    rw [hsecond, update_eq_applyAll ht]
    refine get?_applyAll_congr (s := s.edited field v) (t := t'.edited field v) hform'.symm ?_ _
    show (s.values.insert field v).get? key = (t'.values.insert field v).get? key
    rw [Dict.get?_insert, Dict.get?_insert, hfirst]

/-- Updates of independent fields commute, where conditions enter fields by name: one order succeeds
just where the other does, and both lead to the same values, states and errors. Every reachable
snapshot has a loaded form and is in order (`Reachable.loaded`, `Reachable.ordered`). -/
theorem independent_updates_commute (hs : s.form.Loaded) (hordered : s.Ordered)
    (hnames : s.form.graph.ReadsByName) (hind : s.form.graph.Independent field other)
    (v w : Value) :
    ((∃ u, (s.update field v >>= (·.update other w)) = .ok u) ↔
      ∃ u, (s.update other w >>= (·.update field v)) = .ok u) ∧
    ∀ u u', (s.update field v >>= (·.update other w)) = .ok u →
      (s.update other w >>= (·.update field v)) = .ok u' →
      u.values = u'.values ∧ u.ui = u'.ui ∧ u.errors = u'.errors := by
  refine ⟨?_, fun u u' hu hu' => ?_⟩
  · rw [exists_updates_iff hs hnames hind, exists_updates_iff hs hnames hind.symm, and_comm]
  · obtain ⟨t, ht, hu⟩ := bind_eq_ok_iff.1 hu
    obtain ⟨t', ht', hu'⟩ := bind_eq_ok_iff.1 hu'
    obtain ⟨hcells, hvalues⟩ := same_outside_cone hs hnames hind ht hu ht' hu'
    obtain ⟨hcells', hvalues'⟩ := same_outside_cone hs hnames hind.symm ht' hu' ht hu
    refine ((hordered.update ht).update hu).ext ((hordered.update ht').update hu') ?_ ?_
    · intro id
      by_cases hid : s.form.graph.ConeTargets other id
      · exact (hcells' id fun hfield => hind.targets id hfield hid).symm
      · exact hcells id hid
    · intro key
      by_cases hkey : key = other ∨ s.form.graph.ConeSets other key
      · refine (hvalues' key ?_ fun hfield => ?_).symm
        · rintro rfl
          exact hkey.elim hind.ne hind.field_unset
        · rcases hkey with rfl | hset
          · exact hind.other_unset hfield
          · exact hind.targets key hfield.targets hset.targets
      · exact hvalues key (fun h => hkey (.inl h)) fun h => hkey (.inr h)

theorem orderForm_updates_commute :
    ∃ u u',
      ((Form.ofSchema orderForm [] [] {}).start.update "mail" (.string "a@b") >>=
        (·.update "country" (.string "US"))) = .ok u ∧
      ((Form.ofSchema orderForm [] [] {}).start.update "country" (.string "US") >>=
        (·.update "mail" (.string "a@b"))) = .ok u' ∧
      u.errors.get? "phone" = some "dropped" ∧
      u.values = u'.values ∧ u.ui = u'.ui ∧ u.errors = u'.errors := by
  have hbuild : build orderForm [] [] {} = .ok _ := build_eq_start (by decide +kernel)
  have hnamed := (build_ok hbuild).1
  have hform := Form.form_start (Form.ofSchema orderForm [] [] {})
  obtain ⟨u, hu, herror⟩ := exists_ok_of_any (p := fun u => u.errors.get? "phone" == some "dropped")
    (show (((Form.ofSchema orderForm [] [] {}).start.update "mail" (.string "a@b") >>=
      (·.update "country" (.string "US"))).toOption.any _ = true) by decide +kernel)
  have hind : (RuleGraph.ofSchema orderForm).Independent "mail" "country" :=
    .of_closed (by decide) ["drop_phone"] ["currency_of_country", "note_for_dollars"]
      (by decide +kernel) (by decide +kernel) (by decide +kernel) (by decide +kernel) (by decide)
      (by decide +kernel)
  obtain ⟨hiff, heq⟩ := independent_updates_commute (s := (Form.ofSchema orderForm [] [] {}).start)
    (by rw [hform]; exact ⟨hnamed, rfl⟩) (Form.ordered_start _)
    (by rw [hform]; exact RuleGraph.readsByName_ofSchema hnamed (by decide +kernel))
    (by rwa [hform]) (.string "a@b") (.string "US")
  obtain ⟨u', hu'⟩ := hiff.1 ⟨u, hu⟩
  exact ⟨u, u', hu, hu', by simpa using herror, heq u u' hu hu'⟩

end Snapshot

end FormEngine
