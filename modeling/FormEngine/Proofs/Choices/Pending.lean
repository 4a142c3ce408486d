import FormEngine.Proofs.Choices.Loading
import FormEngine.Proofs.Template

/-!
# Pending requests

A remote field has a request exactly when all it depends on is filled in, since its templates leave
gaps where a path is missing (`exists_choiceRequest?_iff`). The requests that are pending on a field
are found in the index of the graph. They are the initial requests of the fields that depend on it,
in the order of the document (`pendingRequests_selects_initial`).
-/

namespace FormEngine

namespace RemoteSource

variable {mode : TemplateMode}

theorem exists_resolveHeaders (scope : Scope) (h : mode ≠ .strict) (headers : Dict String) :
    ∃ filled, resolveHeaders scope mode headers = .ok filled := by
  induction headers with
  | nil => exact ⟨[], rfl⟩
  | cons header rest ih =>
    obtain ⟨name, template⟩ := header
    obtain ⟨text, htext⟩ := Template.exists_resolve (s := scope) h template
    obtain ⟨filled, hfilled⟩ := ih
    exact ⟨(name, text) :: filled,
      bind_eq_ok_iff.2 ⟨text, htext, bind_eq_ok_iff.2 ⟨filled, hfilled, rfl⟩⟩⟩

theorem exists_resolveBody (scope : Scope) (h : mode ≠ .strict) (body : Option Value) :
    ∃ filled, resolveBody scope mode body = .ok filled := by
  cases body with
  | none => exact ⟨none, rfl⟩
  | some v =>
    obtain ⟨w, hw⟩ := Template.exists_resolveValue (s := scope) h v
    exact ⟨some w, map_eq_ok_iff.2 ⟨w, hw, rfl⟩⟩

theorem exists_resolve (scope : Scope) (h : mode ≠ .strict) (source : RemoteSource)
    (field : String) : ∃ r, source.resolve field scope mode = .ok r := by
  obtain ⟨headers, hheaders⟩ := exists_resolveHeaders scope h source.headers
  obtain ⟨url, hurl⟩ := Template.exists_resolve (s := scope) h source.url
  obtain ⟨body, hbody⟩ := exists_resolveBody scope h source.body
  exact ⟨_, bind_eq_ok_iff.2 ⟨headers, hheaders, bind_eq_ok_iff.2 ⟨url, hurl,
    bind_eq_ok_iff.2 ⟨body, hbody, rfl⟩⟩⟩⟩

end RemoteSource

theorem Schema.field?_eq_some_iff {s : Schema} (hs : s.WellNamed) {id : String} {f : Field} :
    s.field? id = some f ↔ f ∈ s.fields ∧ f.id = id := by
  constructor
  · intro h
    exact ⟨List.mem_of_find?_eq_some h, by simpa using List.find?_some h⟩
  · rintro ⟨hf, rfl⟩
    obtain ⟨g, hg⟩ : ∃ g, s.field? f.id = some g :=
      Option.isSome_iff_exists.1 (List.find?_isSome.2 ⟨f, hf, beq_self_eq_true f.id⟩)
    have hid : g.id = f.id := by simpa using List.find?_some hg
    have hsame : g = f :=
      List.inj_on_of_nodup_map hs.fields (List.mem_of_find?_eq_some hg) hf hid
    exact hsame ▸ hg

/-! ## Fields that depend on a field -/

/-- Whether the choices of a field depend on a key: its remote source names it. -/
def Field.dependsOn (f : Field) (key : String) : Bool :=
  f.remote?.any fun source => decide (key ∈ source.dependsOn)

theorem Field.dependsOn_iff {f : Field} {key : String} :
    f.dependsOn key = true ↔ ∃ source, f.remote? = some source ∧ key ∈ source.dependsOn := by
  simp [dependsOn, Option.any_eq_true]

/-- Whether the choices of the field with this id depend on a key. -/
def Schema.choicesDependOn (s : Schema) (id key : String) : Bool :=
  (s.field? id).any (·.dependsOn key)

theorem Schema.choicesDependOn_id {s : Schema} (hs : s.WellNamed) {f : Field} (hf : f ∈ s.fields)
    (key : String) : s.choicesDependOn f.id key = f.dependsOn key := by
  rw [choicesDependOn, (field?_eq_some_iff hs).2 ⟨hf, rfl⟩, Option.any_some]

theorem Schema.filterMap_field? {s : Schema} (hs : s.WellNamed) {declared : List Field}
    (h : ∀ f ∈ declared, f ∈ s.fields) : (declared.map (·.id)).filterMap s.field? = declared := by
  induction declared with
  | nil => rfl
  | cons f rest ih =>
    obtain ⟨hf, hrest⟩ := List.forall_mem_cons.1 h
    have hfound : s.field? f.id = some f := (field?_eq_some_iff hs).2 ⟨hf, rfl⟩
    rw [List.map_cons, List.filterMap_cons, hfound, ih hrest]

/-- The graph lists the fields that depend on a key in the order of the document, each once however
often its source names the key. -/
theorem RuleGraph.choicesFor_ofSchema (s : Schema) (key : String) :
    (ofSchema s).choicesFor key = (s.fields.filter (·.dependsOn key)).map (·.id) := by
  refine (getD_get?_invert _ key).trans ?_
  induction s.fields with
  | nil => rfl
  | cons f rest ih =>
    rw [List.filterMap_cons, List.filter_cons]
    cases hsource : f.remote? with
    | none => simpa [Field.dependsOn, hsource] using ih
    | some source =>
      by_cases hkey : key ∈ source.dependsOn <;> simpa [Field.dependsOn, hsource, hkey] using ih

namespace Snapshot

variable {s : Snapshot} {f : Field}

theorem exists_choiceRequest?_iff :
    (∃ r, s.choiceRequest? f = some r) ↔
      ∃ source, f.remote? = some source ∧ ∀ d ∈ source.dependsOn, s.isFilled d = true := by
  unfold choiceRequest?
  cases f.remote? with
  | none => simp
  | some source =>
    obtain ⟨r, hr⟩ :=
      source.exists_resolve s.scope (show TemplateMode.relaxed ≠ .strict by decide) f.id
    simp [hr, Except.toOption]

/-! ## Requests of these fields -/

theorem pendingRequests_eq (hs : s.form.Loaded) (key : String) :
    s.pendingRequests key =
      (s.form.schema.fields.filter (·.dependsOn key)).filterMap s.choiceRequest? := by
  unfold pendingRequests
  rw [hs.graph, RuleGraph.choicesFor_ofSchema,
    Schema.filterMap_field? hs.named fun f hf => (List.mem_filter.1 hf).1]

theorem mem_pendingRequests_iff (hs : s.form.Loaded) {key : String} {r : ChoiceRequest} :
    r ∈ s.pendingRequests key ↔
      ∃ f ∈ s.form.schema.fields, (∃ source, f.remote? = some source ∧ key ∈ source.dependsOn) ∧
        s.choiceRequest? f = some r := by
  simp only [pendingRequests_eq hs, List.mem_filterMap, List.mem_filter, Field.dependsOn_iff,
    and_assoc]

theorem filterMap_filter_choiceRequest? {declared : List Field} {keep : Field → Bool}
    {wanted : ChoiceRequest → Bool}
    (h : ∀ f ∈ declared, ∀ r, s.choiceRequest? f = some r → wanted r = keep f) :
    (declared.filter keep).filterMap s.choiceRequest? =
      (declared.filterMap s.choiceRequest?).filter wanted := by
  rw [List.filterMap_filter, List.filter_filterMap]
  refine List.filterMap_congr fun f hf => ?_
  cases hr : s.choiceRequest? f with
  | none => exact ite_self none
  | some r =>
    rw [← h f hf r hr]
    rfl

theorem map_field_filterMap_sublist (s : Snapshot) (declared : List Field) :
    ((declared.filterMap s.choiceRequest?).map (·.field)).Sublist (declared.map (·.id)) := by
  induction declared with
  | nil => exact List.Sublist.slnil
  | cons f rest ih =>
    rw [List.filterMap_cons, List.map_cons]
    cases hr : s.choiceRequest? f with
    | none => exact ih.cons f.id
    | some r =>
      rw [List.map_cons, field_of_choiceRequest? hr]
      exact ih.cons_cons f.id

/-- The requests that are pending on any text are the initial requests of the fields whose source
names it. They stand in the order of the document, and no field has two. -/
theorem pendingRequests_selects_initial (hs : s.Reachable) (key : String) :
    s.pendingRequests key =
        s.initialRequests.filter (fun r => s.form.schema.choicesDependOn r.field key) ∧
      ((s.pendingRequests key).map (·.field)).Sublist (s.form.schema.fields.map (·.id)) ∧
      ((s.pendingRequests key).map (·.field)).Nodup := by
  have hloaded := hs.loaded
  have hselect : s.pendingRequests key =
      s.initialRequests.filter fun r => s.form.schema.choicesDependOn r.field key := by
    rw [pendingRequests_eq hloaded]
    refine filterMap_filter_choiceRequest? fun f hf r hr => ?_
    rw [field_of_choiceRequest? hr, Schema.choicesDependOn_id hloaded.named hf]
  have hordered : ((s.pendingRequests key).map (·.field)).Sublist
      (s.form.schema.fields.map (·.id)) := by
    rw [hselect]
    exact (List.filter_sublist.map _).trans (s.map_field_filterMap_sublist _)
  exact ⟨hselect, hordered, hloaded.named.fields.sublist hordered⟩

/-- An address whose city is chosen in a country, which its source names twice, and whose street is
chosen in a city. Stations depend on a field that is not declared. -/
def addressForm : Schema where
  sections := [{
    id := "address"
    fields := [
      { id := "country", kind := .text, defaultValue := some (.string "FR") },
      { id := "street", kind := .select, choices := some (.remote
          { url := "https://geo.test/streets", dependsOn := ["country", "city"] }) },
      { id := "city", kind := .select, choices := some (.remote
          { url := "https://geo.test/$\x7bcountry\x7d", dependsOn := ["country", "country"] }) },
      { id := "language", kind := .select, choices := some (.remote
          { url := "https://geo.test/languages" }) },
      { id := "station", kind := .select, choices := some (.remote
          { url := "https://geo.test/stations", dependsOn := ["country", "line"] }) }] }]

/-- Cities and languages can be loaded at the start, and only cities are pending on the country. Of
the stations there is a dependent, but no request. -/
theorem addressForm_pendingRequests :
    (Form.ofSchema addressForm [] [] {}).start.Reachable ∧
    (Form.ofSchema addressForm [] [] {}).start.initialRequests.map (·.field) =
      ["city", "language"] ∧
    ((Form.ofSchema addressForm [] [] {}).start.pendingRequests "country").map (·.field) =
      ["city"] ∧
    (Form.ofSchema addressForm [] [] {}).graph.choicesFor "line" = ["station"] ∧
    (Form.ofSchema addressForm [] [] {}).start.pendingRequests "line" = [] := by
  have hreach : (Form.ofSchema addressForm [] [] {}).start.Reachable :=
    ⟨addressForm, [], [], {}, _, Snapshot.build_eq_start (by decide +kernel), .refl⟩
  obtain ⟨hcountry, -, -⟩ := pendingRequests_selects_initial hreach "country"
  obtain ⟨hline, -, -⟩ := pendingRequests_selects_initial hreach "line"
  refine ⟨hreach, by decide +kernel, ?_, by decide +kernel, ?_⟩
  · rw [hcountry]
    decide +kernel
  · rw [hline, ← List.map_eq_nil_iff (f := (·.field))]
    decide +kernel

end Snapshot

end FormEngine
