import FormEngine.Proofs.Except
import FormEngine.Proofs.Update.Cascade
import FormEngine.Session

/-!
# Setting fields

A session keeps the snapshot of an operation that succeeds, and what fails leaves it as it was
(`commit_of_error`). Setting a field is updating the snapshot; it fails for a field that is not
declared, or for the warnings of the update (`SetFails`). Setting fields one after another ends
where one of them cannot be set (`editAll_eq_ok_iff`, `editAll_error_iff`).
-/

namespace FormEngine.Session

variable {s t : Session}

/-! ## One field -/

section Commit

variable {α : Type} {outcome : Except SessionError (α × Snapshot)}

theorem commit_error_iff {e : SessionError} :
    (s.commit outcome).1 = .error e ↔ outcome = .error e := by
  unfold commit
  split <;> simp

/-- What fails leaves the session as it was. -/
theorem commit_of_error {e : SessionError} (h : (s.commit outcome).1 = .error e) :
    (s.commit outcome).2 = s := by
  rw [commit_error_iff.1 h]
  rfl

theorem commit_eq_ok_iff {reply : α} :
    s.commit outcome = (.ok reply, t) ↔
      ∃ next, outcome = .ok (reply, next) ∧ t = { s with snapshot := next } := by
  cases outcome with
  | error e => simp [commit]
  | ok result => simp [commit, Prod.ext_iff, eq_comm, and_assoc]

end Commit

theorem edit_eq_ok_iff {s next : Snapshot} {field : String} {value : Value} :
    edit s field value = .ok next ↔ s.update field value = .ok next := by
  unfold edit
  cases s.update field value with
  | error e => exact ⟨fun h => (nomatch h), fun h => (nomatch h)⟩
  | ok t =>
    constructor
    · intro h
      cases h
      rfl
    · intro h
      cases h
      rfl

theorem set_eq_ok_iff {field : String} {value : Value} :
    s.set field value = (.ok (), t) ↔
      ∃ next, s.snapshot.update field value = .ok next ∧ t = { s with snapshot := next } := by
  unfold set
  rw [commit_eq_ok_iff]
  refine exists_congr fun next => and_congr_left fun _ => ?_
  rw [← edit_eq_ok_iff]
  cases edit s.snapshot field value <;> simp [Except.map]

/-- Why a field cannot be set: it is not declared, or the warnings of its update undo the step. -/
inductive SetFails (s : Session) (field : String) (value : Value) : SessionError → Prop where
  | unknown (h : s.snapshot.form.graph.hasField field = false) :
      SetFails s field value (.engine (.unknownField field))
  | discarded {warnings : List Warning} (hfield : s.snapshot.form.graph.hasField field = true)
      (hwarnings : warnings =
        s.snapshot.updateWarnings field (s.snapshot.cascadeOf field value))
      (h : s.snapshot.form.discards warnings = true) :
      SetFails s field value (.engine (.evaluationDiscarded warnings))

theorem edit_error_iff {field : String} {value : Value} {e : SessionError} :
    edit s.snapshot field value = .error e ↔ s.SetFails field value e := by
  unfold edit
  constructor
  · intro h
    cases hupdate : s.snapshot.update field value with
    | ok next => rw [hupdate] at h; cases h
    | error cause =>
      rw [hupdate] at h
      cases h
      rcases Snapshot.update_eq_error_iff.1 hupdate with ⟨hfield, rfl⟩ | ⟨hfield, hd, rfl⟩
      · exact .unknown hfield
      · exact .discarded hfield rfl hd
  · intro h
    cases h with
    | unknown h => rw [Snapshot.update_eq_error_iff.2 (.inl ⟨h, rfl⟩)]; rfl
    | discarded hfield hwarnings h =>
      subst hwarnings
      rw [Snapshot.update_eq_error_iff.2 (.inr ⟨hfield, h, rfl⟩)]
      rfl

/-- Setting a field fails where its update does. -/
theorem set_error_iff {field : String} {value : Value} {e : SessionError} :
    (s.set field value).1 = .error e ↔ s.SetFails field value e := by
  unfold set
  rw [commit_error_iff, ← edit_error_iff]
  cases edit s.snapshot field value <;> simp [Except.map]

/-- Setting a field to a text fails for a text that is no document, or as setting it to the document
does. -/
theorem setText_error_iff {field text : String} {e : SessionError} :
    (s.setText field text).1 = .error e ↔ Json.read? text = none ∧ e = .json ∨
      ∃ value, Json.read? text = some value ∧ s.SetFails field value e := by
  unfold setText document
  rw [commit_error_iff]
  cases Json.read? text with
  | none => simp [bind, Except.bind, eq_comm]
  | some value =>
    simp only [reduceCtorEq, false_and, false_or, Option.some.injEq, exists_eq_left']
    rw [← edit_error_iff]
    refine (bind_eq_error_iff (e := edit s.snapshot field value)).trans ?_
    simp [pure, Except.pure]

/-! ## Several fields -/

/-- Setting the fields one after another succeeds each time, and leads to a session. -/
inductive SetAll : Session → List (String × Value) → Session → Prop where
  | nil (s : Session) : SetAll s [] s
  | cons {s mid t : Session} {entry : String × Value} {rest : List (String × Value)}
      (h : s.set entry.1 entry.2 = (.ok (), mid)) (hrest : SetAll mid rest t) :
      SetAll s (entry :: rest) t

/-- One of the fields cannot be set, when those before it are. -/
inductive SetAllFails (e : SessionError) : Session → List (String × Value) → Prop where
  | here {s : Session} {entry : String × Value} {rest : List (String × Value)}
      (h : s.SetFails entry.1 entry.2 e) : SetAllFails e s (entry :: rest)
  | later {s mid : Session} {entry : String × Value} {rest : List (String × Value)}
      (h : s.set entry.1 entry.2 = (.ok (), mid)) (hrest : SetAllFails e mid rest) :
      SetAllFails e s (entry :: rest)

theorem editAll_cons (s : Snapshot) (entry : String × Value) (rest : List (String × Value)) :
    editAll s (entry :: rest) =
      edit s entry.1 entry.2 >>= fun mid => editAll mid rest := List.foldlM_cons

/-- Editing all fields is setting them one after another. -/
theorem editAll_eq_ok_iff {entries : List (String × Value)} {next : Snapshot} :
    editAll s.snapshot entries = .ok next ↔ SetAll s entries { s with snapshot := next } := by
  induction entries generalizing s with
  | nil =>
    constructor
    · intro h
      cases h
      exact .nil s
    · intro h
      generalize ht : { s with snapshot := next } = t at h
      cases h
      have hnext : next = s.snapshot := congrArg Session.snapshot ht
      rw [hnext]
      rfl
  | cons entry rest ih =>
    rw [editAll_cons, bind_eq_ok_iff]
    constructor
    · rintro ⟨mid, hmid, hrest⟩
      have hset := set_eq_ok_iff.2 ⟨mid, edit_eq_ok_iff.1 hmid, rfl⟩
      exact .cons hset (ih (s := { s with snapshot := mid }).1 hrest)
    · intro h
      cases h with
      | cons h hrest =>
        obtain ⟨mid, hmid, rfl⟩ := set_eq_ok_iff.1 h
        exact ⟨mid, edit_eq_ok_iff.2 hmid, ih.2 hrest⟩

/-- Editing all fails where one field cannot be set after those before it. -/
theorem editAll_error_iff {entries : List (String × Value)} {e : SessionError} :
    editAll s.snapshot entries = .error e ↔ SetAllFails e s entries := by
  induction entries generalizing s with
  | nil =>
    constructor
    · intro h
      cases h
    · intro h
      cases h
  | cons entry rest ih =>
    rw [editAll_cons, bind_eq_error_iff]
    constructor
    · rintro (h | ⟨mid, hmid, hrest⟩)
      · exact .here (edit_error_iff.1 h)
      · exact .later (set_eq_ok_iff.2 ⟨mid, edit_eq_ok_iff.1 hmid, rfl⟩)
          (ih (s := { s with snapshot := mid }).1 hrest)
    · intro h
      cases h with
      | here h => exact .inl (edit_error_iff.2 h)
      | later h hrest =>
        obtain ⟨mid, hmid, rfl⟩ := set_eq_ok_iff.1 h
        exact .inr ⟨mid, edit_eq_ok_iff.2 hmid, ih.2 hrest⟩

end FormEngine.Session
