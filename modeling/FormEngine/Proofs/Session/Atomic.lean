import FormEngine.Proofs.Session.Patch

/-!
# All or nothing

An operation of a session that fails leaves the session as it was, wherever it fails: at any entry
of a patch, or at any request to the host (`operations_all_or_nothing`). Loading that succeeds
changes the choices of the fields it asks for.
-/

namespace FormEngine.Session

section Loading

variable {σ : Type} {loader : ChoiceLoader σ} {requests : List ChoiceRequest} {host : σ}

/-- What becomes of a session that asks the host for choices: it is as it was when the host fails at
a request, and otherwise the fields that are asked for offer the answers. -/
structure Answered (s : Session) (loader : ChoiceLoader σ) (requests : List ChoiceRequest)
    (host : σ) (reply : Except SessionError Nat) (t : Session) : Prop where
  failed : ∀ e, reply = .error e →
    t = s ∧ ∃ cause, e = .choices cause ∧ loader.Fails cause requests host
  loaded : ∀ n, reply = .ok n → n = requests.length ∧ t = { s with snapshot := t.snapshot } ∧
    ∃ answers, loader.Answers requests host answers ∧
      answers.map Prod.fst = requests.map (·.field) ∧
      s.snapshot.StoredChoices answers t.snapshot

theorem answered_answer (s : Session) (loader : ChoiceLoader σ) (requests : List ChoiceRequest)
    (host : σ) : s.Answered loader requests host (s.answer loader requests host).1.1
      (s.answer loader requests host).1.2 := by
  unfold answer
  rcases hload : s.snapshot.load loader requests host with ⟨outcome, host'⟩
  have hfst : (s.snapshot.load loader requests host).1 = outcome := by rw [hload]
  cases outcome with
  | error cause =>
    refine ⟨fun e h => ?_, fun n h => (nomatch h)⟩
    cases h
    exact ⟨rfl, cause, rfl, Snapshot.load_eq_error_iff.1 hfst⟩
  | ok next =>
    refine ⟨fun e h => (nomatch h), fun n h => ?_⟩
    cases h
    obtain ⟨answers, hanswers, rfl⟩ := Snapshot.load_eq_ok_iff.1 hfst
    exact ⟨rfl, rfl, answers, hanswers, hanswers.map_fst, Snapshot.storedChoices_store _ _⟩

end Loading

/-- Every operation of a session does all it is asked to or nothing. One that fails leaves the
session as it was, and each fails for the reasons given: a patch where its text is no object with
entries, or where one of its fields cannot be set after those before it. A patch that succeeds does
what setting its fields in order does. Loading fails where the host does; else the fields that are
asked for offer the last answers for them, and nothing else has changed. -/
theorem operations_all_or_nothing (s : Session) :
    (∀ field value e, (s.set field value).1 = .error e →
      (s.set field value).2 = s ∧ s.SetFails field value e) ∧
    (∀ field text e, (s.setText field text).1 = .error e → (s.setText field text).2 = s ∧
      (Json.read? text = none ∧ e = .json ∨
        ∃ value, Json.read? text = some value ∧ s.SetFails field value e)) ∧
    (∀ text e, (s.patch text).1 = .error e → (s.patch text).2 = s) ∧
    (∀ text e, (s.patch text).1 = .error e ↔ s.PatchFails text e) ∧
    (∀ text o, (s.patch text).1 = .ok o → s.Patched text o (s.patch text).2) ∧
    (∀ {σ : Type} (loader : ChoiceLoader σ) (host : σ) (field : String),
      s.Answered loader (s.snapshot.pendingRequests field) host
        (s.refresh field loader host).1.1 (s.refresh field loader host).1.2) ∧
    ∀ {σ : Type} (loader : ChoiceLoader σ) (host : σ),
      s.Answered loader s.snapshot.initialRequests host
        (s.loadAll loader host).1.1 (s.loadAll loader host).1.2 := by
  refine ⟨fun field value e h => ⟨commit_of_error h, set_error_iff.1 h⟩,
    fun field text e h => ⟨commit_of_error h, setText_error_iff.1 h⟩,
    fun text e => commit_of_error, fun text e => patch_error_iff, fun text o h => ?_,
    fun loader host field => answered_answer .., fun loader host => answered_answer ..⟩
  exact patched_of_patch (Prod.ext h rfl)

/-- A form whose cities are loaded for its country, and which drops the city when the country
changes. -/
def travelForm : Schema where
  sections := [{
    id := "main"
    fields := [
      { id := "country", kind := .text },
      { id := "city", kind := .select
        choices := some (.remote {
          url := "https://geo.test/cities", dependsOn := ["country"]
          labelKey := "name", valueKey := "code" }) }] }]
  rules := [{
    id := "drop_city"
    condition := .var "country" none
    actions := [.setValue "city" (.string "")] }]

def travelSession : Session :=
  ⟨(Form.ofSchema travelForm [] [] {}).start, (Form.ofSchema travelForm [] [] {}).start, [], []⟩

/-- A host with one city for every request. -/
def oneCity : ChoiceLoader Unit := fun _ host => (.ok [⟨"Paris", .string "PAR"⟩], host)

/-- A patch whose keys are not in order. -/
def cityPatch : String := "\x7b\"country\": \"FR\", \"city\": \"X\"\x7d"

/-- A patch whose second field is not declared. -/
def ghostPatch : String := "\x7b\"country\": \"FR\", \"ghost\": 1\x7d"

theorem travelForm_operations :
    (∃ e, (travelSession.patch ghostPatch).1 = .error e ∧
      (travelSession.patch ghostPatch).2 = travelSession) ∧
    ∃ o t, (travelSession.patch cityPatch).1 = .ok o ∧ (travelSession.patch cityPatch).2 = t ∧
      o.changed = ["city", "country"] ∧ o.requests.map (·.field) = ["city"] ∧
      travelSession.Patched cityPatch o t ∧
      t.Answered oneCity (t.snapshot.pendingRequests "country") ()
        (t.refresh "country" oneCity ()).1.1 (t.refresh "country" oneCity ()).1.2 := by
  obtain ⟨-, -, hunchanged, -, hpatched, -, -⟩ := operations_all_or_nothing travelSession
  obtain ⟨-, -, -, -, -, hrefresh, -⟩ :=
    operations_all_or_nothing (travelSession.patch cityPatch).2
  obtain ⟨e, he⟩ := exists_error_of_isOk
    (show (travelSession.patch ghostPatch).1.isOk = false by decide +kernel)
  obtain ⟨o, ho, hreply⟩ := exists_ok_of_any
    (show (travelSession.patch cityPatch).1.toOption.any (fun o =>
      o.changed == ["city", "country"] && o.requests.map (·.field) == ["city"]) = true
      by decide +kernel)
  rw [Bool.and_eq_true, beq_iff_eq, beq_iff_eq] at hreply
  exact ⟨⟨e, he, hunchanged _ e he⟩, o, _, ho, rfl, hreply.1, hreply.2, hpatched _ o ho,
    hrefresh oneCity () "country"⟩

end FormEngine.Session
