import FormEngine.Proofs.Snapshot.Consistent

/-!
# Where fields stand

A field stands in a section, and maybe in a subsection of it. Visibility and disablement are looked
up by the index of locations; here they are read off the outline of the schema. In a consistent
snapshot both give the same (`isVisible_eq`, `isDisabled_eq`).
-/

namespace FormEngine

/-- A field with the keys of the groups it stands in. -/
structure Place where
  field : Field
  groups : List String

namespace Schema

/-- The places of a section. -/
def sectionPlaces (g : Section) : List Place :=
  g.fields.map (⟨·, [g.id]⟩) ++
    g.subsections.flatMap fun h => h.fields.map (⟨·, [g.id, h.key]⟩)

/-- The place of every field, in document order. -/
def places (s : Schema) : List Place := s.sections.flatMap sectionPlaces

variable {s : Schema} {p : Place}

theorem map_field_sectionPlaces (g : Section) :
    (sectionPlaces g).map (·.field) = g.allFields := by
  simp [sectionPlaces, Section.allFields, List.map_flatMap, Function.comp_def]

theorem map_field_places (s : Schema) : s.places.map (·.field) = s.fields := by
  rw [places, List.map_flatMap]
  simp only [map_field_sectionPlaces]
  rfl

theorem mem_groups_of_mem_places (hp : p ∈ s.places) {key : String} (hkey : key ∈ p.groups) :
    key ∈ s.groups.map (·.key) := by
  obtain ⟨g, hg, hp⟩ := List.mem_flatMap.1 hp
  rw [groups, List.map_append, List.mem_append]
  have hsection : g.id ∈ (s.sections.map fun g => Group.mk g.id g.id g.rows g.fields).map (·.key) :=
    List.mem_map.2 ⟨_, List.mem_map.2 ⟨g, hg, rfl⟩, rfl⟩
  rcases List.mem_append.1 hp with hp | hp
  · obtain ⟨f, hf, rfl⟩ := List.mem_map.1 hp
    rw [List.mem_singleton.1 hkey]
    exact .inl hsection
  · obtain ⟨h, hh, hp⟩ := List.mem_flatMap.1 hp
    obtain ⟨f, hf, rfl⟩ := List.mem_map.1 hp
    rcases List.mem_cons.1 hkey with rfl | hkey
    · exact .inl hsection
    · rw [List.mem_singleton.1 hkey]
      have hsub : h ∈ s.subsections := List.mem_flatMap.2 ⟨g, hg, hh⟩
      exact .inr (List.mem_map.2 ⟨_, List.mem_map.2 ⟨h, hsub, rfl⟩, rfl⟩)

/-- The index of locations has every place. -/
theorem location_of_mem_places (hs : s.WellNamed) (hp : p ∈ s.places) :
    ∃ l, s.locations.get? p.field.id = some l ∧
      p.groups = l.sectionId :: (l.subsectionId.map Subsection.keyOf).toList := by
  have hn : ((s.sections.flatMap sectionLocations).map Prod.fst).Nodup := by
    rw [List.map_flatMap]
    simp only [map_fst_sectionLocations]
    rw [← List.map_flatMap]
    exact hs.fields
  obtain ⟨g, hg, hp⟩ := List.mem_flatMap.1 hp
  have hlocation : ∀ l, (p.field.id, l) ∈ sectionLocations g →
      s.locations.get? p.field.id = some l := fun l hl =>
    (Dict.get?_ofList_eq_some_iff hn).2 (List.mem_flatMap.2 ⟨g, hg, hl⟩)
  rcases List.mem_append.1 hp with hp | hp
  · obtain ⟨f, hf, rfl⟩ := List.mem_map.1 hp
    have hl : (f.id, Location.mk g.id none) ∈ sectionLocations g :=
      List.mem_append_left _ (List.mem_map.2 ⟨f, hf, rfl⟩)
    exact ⟨_, hlocation _ hl, rfl⟩
  · obtain ⟨h, hh, hp⟩ := List.mem_flatMap.1 hp
    obtain ⟨f, hf, rfl⟩ := List.mem_map.1 hp
    have hl : (f.id, Location.mk g.id (some h.id)) ∈ sectionLocations g :=
      List.mem_append_right _ (List.mem_flatMap.2 ⟨h, hh, List.mem_map.2 ⟨f, hf, rfl⟩⟩)
    exact ⟨_, hlocation _ hl, rfl⟩

end Schema

namespace Snapshot

/-- Whether the field of a place and all groups around it are visible. -/
def showsPlace (s : Snapshot) (p : Place) : Bool :=
  (s.ui.fields.get? p.field.id).any (·.visible) &&
    p.groups.all fun key => (s.ui.sections.get? key).any (·.visible)

/-- Whether the field of a place and all groups around it are enabled. -/
def enablesPlace (s : Snapshot) (p : Place) : Bool :=
  (s.ui.fields.get? p.field.id).any (!·.disabled) &&
    p.groups.all fun key => (s.ui.sections.get? key).any (!·.disabled)

variable {s : Snapshot} {p : Place}

theorem containers_eq (hs : s.form.Loaded) (hp : p ∈ s.form.schema.places) :
    s.containers p.field.id = p.groups.filterMap s.ui.sections.get? := by
  obtain ⟨⟨sectionId, subsectionId⟩, hl, hgroups⟩ := Schema.location_of_mem_places hs.named hp
  have hfields : s.form.graph.fields = s.form.schema.locations := by rw [hs.graph]; rfl
  unfold containers
  rw [hfields, hl, hgroups]
  cases subsectionId with
  | none => cases h : s.ui.sections.get? sectionId <;> simp [h]
  | some id =>
    cases h : s.ui.sections.get? sectionId <;>
      cases h' : s.ui.sections.get? (Subsection.keyOf id) <;> simp [h, h']

namespace Consistent

theorem exists_group (h : s.Consistent) (hp : p ∈ s.form.schema.places) {key : String}
    (hkey : key ∈ p.groups) : ∃ g, s.ui.sections.get? key = some g :=
  Option.isSome_iff_exists.1 (Dict.has_iff.2 (h.groups.mem_iff.2
    (Schema.mem_groups_of_mem_places hp hkey)))

theorem exists_field (h : s.Consistent) (hp : p ∈ s.form.schema.places) :
    ∃ f, s.ui.fields.get? p.field.id = some f := by
  refine Option.isSome_iff_exists.1 (Dict.has_iff.2 (h.fields.mem_iff.2 ?_))
  rw [← Schema.map_field_places]
  exact List.mem_map.2 ⟨_, List.mem_map.2 ⟨p, hp, rfl⟩, rfl⟩

theorem all_containers (h : s.Consistent) (hp : p ∈ s.form.schema.places)
    (test : SectionUi → Bool) :
    (s.containers p.field.id).all test =
      p.groups.all fun key => (s.ui.sections.get? key).any test := by
  rw [containers_eq h.loaded hp, List.all_filterMap, Bool.eq_iff_iff, List.all_eq_true,
    List.all_eq_true]
  refine forall₂_congr fun key hkey => ?_
  obtain ⟨g, hg⟩ := h.exists_group hp hkey
  rw [hg]
  rfl

theorem isVisible_eq (h : s.Consistent) (hp : p ∈ s.form.schema.places) :
    s.isVisible p.field.id = s.showsPlace p := by
  obtain ⟨f, hf⟩ := h.exists_field hp
  unfold isVisible showsPlace
  rw [hf, ← h.all_containers hp]
  rfl

theorem isDisabled_eq (h : s.Consistent) (hp : p ∈ s.form.schema.places) :
    s.isDisabled p.field.id = !s.enablesPlace p := by
  obtain ⟨f, hf⟩ := h.exists_field hp
  unfold isDisabled enablesPlace
  rw [hf, ← h.all_containers hp]
  simp [List.any_eq_not_all_not]

end Consistent

end Snapshot

end FormEngine
