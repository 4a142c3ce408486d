import FormEngine.Choices.Request
import FormEngine.Proofs.Except
import FormEngine.Proofs.Snapshot.Ordered
import Mathlib.Data.List.Induction

/-!
# Requests and their answers

A pending request is the one request of the field it is for (`field?_of_mem_pendingRequests`). A
loader answers requests in order or fails at one of them (`load_eq_ok_iff`, `load_eq_error_iff`).
The answers change the choices of the fields they are for, of which the last of a field stays, and
nothing else (`storedChoices_store`).
-/

namespace FormEngine

/-! ## Requests -/

theorem RemoteSource.field_of_resolve {source : RemoteSource} {field : String} {scope : Scope}
    {mode : TemplateMode} {r : ChoiceRequest} (h : source.resolve field scope mode = .ok r) :
    r.field = field := by
  obtain ⟨headers, -, h⟩ := bind_eq_ok_iff.1 h
  obtain ⟨url, -, h⟩ := bind_eq_ok_iff.1 h
  obtain ⟨body, -, h⟩ := bind_eq_ok_iff.1 h
  cases h
  rfl

namespace Snapshot

theorem field_of_choiceRequest? {s : Snapshot} {f : Field} {r : ChoiceRequest}
    (h : s.choiceRequest? f = some r) : r.field = f.id := by
  unfold choiceRequest? at h
  split at h
  · cases h
  · rename_i source _
    split at h
    · cases hr : source.resolve f.id s.scope .relaxed with
      | error e => rw [hr] at h; cases h
      | ok r' =>
        rw [hr] at h
        cases h
        exact RemoteSource.field_of_resolve hr
    · cases h

/-- A pending request is the request of the declared field it is for. -/
theorem field?_of_mem_pendingRequests {s : Snapshot} {key : String} {r : ChoiceRequest}
    (h : r ∈ s.pendingRequests key) :
    (s.form.schema.field? r.field).bind s.choiceRequest? = some r := by
  obtain ⟨f, hf, hr⟩ := List.mem_filterMap.1 h
  obtain ⟨id, -, hid⟩ := List.mem_filterMap.1 hf
  have hname : f.id = id := by simpa using List.find?_some hid
  rw [field_of_choiceRequest? hr, hname, hid]
  exact hr

end Snapshot

/-! ## Answers -/

variable {σ : Type}

namespace ChoiceLoader

/-- The loader answers the requests one after another, each with the choices of its field. -/
inductive Answers (loader : ChoiceLoader σ) :
    List ChoiceRequest → σ → List (String × List Choice) → Prop where
  | nil (host : σ) : Answers loader [] host []
  | cons {r : ChoiceRequest} {rest : List ChoiceRequest} {host : σ} {choices : List Choice}
      {answers : List (String × List Choice)} (h : (loader r host).1 = .ok choices)
      (hrest : Answers loader rest (loader r host).2 answers) :
      Answers loader (r :: rest) host ((r.field, choices) :: answers)

/-- The loader fails at one of the requests, when it has answered those before it. -/
inductive Fails (loader : ChoiceLoader σ) (e : ChoiceError) : List ChoiceRequest → σ → Prop where
  | here {r : ChoiceRequest} {rest : List ChoiceRequest} {host : σ}
      (h : (loader r host).1 = .error e) : Fails loader e (r :: rest) host
  | later {r : ChoiceRequest} {rest : List ChoiceRequest} {host : σ} {choices : List Choice}
      (h : (loader r host).1 = .ok choices) (hrest : Fails loader e rest (loader r host).2) :
      Fails loader e (r :: rest) host

theorem Answers.map_fst {loader : ChoiceLoader σ} {requests : List ChoiceRequest} {host : σ}
    {answers : List (String × List Choice)} (h : loader.Answers requests host answers) :
    answers.map Prod.fst = requests.map (·.field) := by
  induction h with
  | nil host => rfl
  | cons h hrest ih => rw [List.map_cons, List.map_cons, ih]

end ChoiceLoader

namespace FieldUi

/-- The field shows these choices, all of them enabled. -/
def Offers (f : FieldUi) (choices : List Choice) : Prop :=
  sameChoices (some choices) f.choices = true ∧ f.disabledChoices = []

/-- The states differ in choices only. -/
def SameButChoices (f g : FieldUi) : Prop :=
  g.visible = f.visible ∧ g.disabled = f.disabled ∧ g.error = f.error

theorem SameButChoices.trans {f g h : FieldUi} (hfg : f.SameButChoices g)
    (hgh : g.SameButChoices h) : f.SameButChoices h :=
  ⟨hgh.1.trans hfg.1, hgh.2.1.trans hfg.2.1, hgh.2.2.trans hfg.2.2⟩

theorem sameButChoices_edit (choices : List Choice) (f : FieldUi) :
    f.SameButChoices (f.edit (setChoices choices)) := by
  rcases edit_eq_or (setChoices choices) f with ⟨h, -⟩ | h
  · rw [h]
    exact ⟨rfl, rfl, rfl⟩
  · rw [h]
    exact ⟨rfl, rfl, rfl⟩

theorem offers_edit (choices : List Choice) (f : FieldUi) :
    (f.edit (setChoices choices)).Offers choices := by
  rcases edit_eq_or (setChoices choices) f with ⟨h, hsame⟩ | h
  · rw [h]
    simp only [same, setChoices, Bool.and_eq_true] at hsame
    refine ⟨hsame.1.2, ?_⟩
    cases hdisabled : f.disabledChoices with
    | nil => rfl
    | cons v rest =>
      rw [hdisabled] at hsame
      cases hsame.2
  · rw [h]
    exact ⟨Choice.sameList_refl choices, rfl⟩

end FieldUi

namespace Snapshot

/-- Stores answers one after another. -/
def store (s : Snapshot) (answers : List (String × List Choice)) : Snapshot :=
  s.applyAll (answers.map fun a => .setChoices a.1 a.2)

variable {s t : Snapshot} {loader : ChoiceLoader σ} {requests : List ChoiceRequest} {host : σ}

section First

variable {r : ChoiceRequest} {rest : List ChoiceRequest}

theorem load_cons_of_ok {choices : List Choice} (h : (loader r host).1 = .ok choices) :
    s.load loader (r :: rest) host =
      (s.setChoices r.field choices).load loader rest (loader r host).2 := by
  rw [load]
  split <;> rename_i hcall <;> rw [hcall] at h <;> cases h
  rw [hcall]

theorem load_cons_of_error {e : ChoiceError} (h : (loader r host).1 = .error e) :
    (s.load loader (r :: rest) host).1 = .error e := by
  rw [load]
  split <;> rename_i hcall <;> rw [hcall] at h <;> cases h
  rfl

end First

/-- Loading succeeds when every request is answered, and then stores the answers. -/
theorem load_eq_ok_iff : (s.load loader requests host).1 = .ok t ↔
    ∃ answers, loader.Answers requests host answers ∧ t = s.store answers := by
  induction requests generalizing s host with
  | nil =>
    constructor
    · intro h
      cases h
      exact ⟨[], .nil host, rfl⟩
    · rintro ⟨answers, hanswers, rfl⟩
      cases hanswers
      rfl
  | cons r rest ih =>
    constructor
    · intro h
      cases hcall : (loader r host).1 with
      | error e =>
        rw [load_cons_of_error hcall] at h
        cases h
      | ok choices =>
        rw [load_cons_of_ok hcall, ih] at h
        obtain ⟨answers, hanswers, rfl⟩ := h
        exact ⟨(r.field, choices) :: answers, .cons hcall hanswers, rfl⟩
    · rintro ⟨answers, hanswers, rfl⟩
      cases hanswers with
      | cons hcall hrest =>
        rw [load_cons_of_ok hcall, ih]
        exact ⟨_, hrest, rfl⟩

/-- Loading fails as the loader does at the first request it does not answer. -/
theorem load_eq_error_iff {e : ChoiceError} :
    (s.load loader requests host).1 = .error e ↔ loader.Fails e requests host := by
  induction requests generalizing s host with
  | nil => exact ⟨fun h => (nomatch h), fun h => (nomatch h)⟩
  | cons r rest ih =>
    constructor
    · intro h
      cases hcall : (loader r host).1 with
      | error e' =>
        rw [load_cons_of_error hcall] at h
        cases h
        exact .here hcall
      | ok choices =>
        rw [load_cons_of_ok hcall, ih] at h
        exact .later hcall h
    · intro h
      cases h with
      | here hcall => exact load_cons_of_error hcall
      | later hcall hrest =>
        rw [load_cons_of_ok hcall, ih]
        exact hrest

/-! ## Answers in a snapshot -/

/-- What storing answers does: a declared field that is asked for offers the last answer for it, and
nothing else has changed. -/
structure StoredChoices (s : Snapshot) (answers : List (String × List Choice)) (t : Snapshot) :
    Prop where
  form : t.form = s.form
  values : t.values = s.values
  groups : t.ui.sections = s.ui.sections
  errors : t.errors = s.errors
  warnings : t.warnings = s.warnings
  keys : t.ui.fields.keys = s.ui.fields.keys
  others : ∀ id, id ∉ answers.map Prod.fst → t.ui.fields.get? id = s.ui.fields.get? id
  asked : ∀ id f, s.ui.fields.get? id = some f →
    ∃ g, t.ui.fields.get? id = some g ∧ f.SameButChoices g ∧
      ∀ choices, (Dict.ofList answers).get? id = some choices → g.Offers choices

theorem StoredChoices.none (s : Snapshot) : s.StoredChoices [] s where
  form := rfl
  values := rfl
  groups := rfl
  errors := rfl
  warnings := rfl
  keys := rfl
  others := fun _ _ => rfl
  asked := fun _ f hf => ⟨f, hf, ⟨rfl, rfl, rfl⟩, fun choices h => by cases h⟩

/-- One more answer is stored by one more action. -/
theorem StoredChoices.answer {s t : Snapshot} {answers : List (String × List Choice)}
    (h : s.StoredChoices answers t) (field : String) (choices : List Choice) :
    s.StoredChoices (answers ++ [(field, choices)]) (t.apply (.setChoices field choices)) := by
  have hfields (id : String) := Ui.get?_editField t.ui field (FieldUi.setChoices choices) id
  have hfixed := apply_form t (.setChoices field choices)
  constructor
  case form => exact hfixed.1.trans h.form
  case values => exact h.values
  case groups => exact (Ui.sections_editField ..).trans h.groups
  case errors => exact h.errors
  case warnings => exact hfixed.2.trans h.warnings
  case keys => exact (keys_apply _ _).1.trans h.keys
  case others =>
    intro id hid
    rw [List.map_append, List.mem_append, not_or] at hid
    refine (hfields id).trans ?_
    rw [if_neg fun heq => hid.2 (by simp [heq]), h.others id hid.1]
  case asked =>
    intro id f hf
    obtain ⟨g, hg, hsame, hoffers⟩ := h.asked id f hf
    have hread := hfields id
    rw [hg] at hread
    rw [Dict.ofList_append_singleton, Dict.get?_insert]
    by_cases hid : field = id
    · rw [if_pos hid] at hread ⊢
      refine ⟨_, hread, hsame.trans (FieldUi.sameButChoices_edit choices g), ?_⟩
      rintro _ ⟨rfl⟩
      exact FieldUi.offers_edit choices g
    · rw [if_neg hid] at hread ⊢
      exact ⟨g, hread, hsame, hoffers⟩

theorem storedChoices_store (s : Snapshot) (answers : List (String × List Choice)) :
    s.StoredChoices answers (s.store answers) := by
  induction answers using List.reverseRecOn with
  | nil => exact .none s
  | append_singleton answers last ih =>
    obtain ⟨field, choices⟩ := last
    have hstore : s.store (answers ++ [(field, choices)]) =
        (s.store answers).apply (.setChoices field choices) := by
      unfold store
      rw [List.map_append, applyAll_append]
      rfl
    rw [hstore]
    exact ih.answer field choices

end Snapshot

end FormEngine
