import FormEngine.Proofs.Session.Set
import FormEngine.Proofs.Snapshot.Reset

/-!
# Runs of a session

A session goes on by its operations, whether they succeed or fail (`Step`). Each of them keeps the
first snapshot and leads from the present one by steps of the form, or is a reset
(`Step.first_and_reaches`). So the present snapshot of a session is one that its form can get to
(`Reachable.snapshot`), and the two resets, that of the session to the snapshot it has kept and
that of the snapshot to one that is built anew, lead to the same (`resets_return_to_start`).
-/

namespace FormEngine

theorem Decode.sorted_of_dict? {α : Type} {item? : Value → Option α} {v : Value} {d : Dict α}
    (h : dict? item? v = some d) : d.Sorted := by
  cases v with
  | object members =>
    obtain ⟨entries, -, rfl⟩ := Option.map_eq_some_iff.1 h
    exact Dict.sorted_ofList entries
  | _ => cases h

theorem Schema.sorted_globals_of_ofText {text : String} {s : Schema} (h : ofText text = .ok s) :
    s.globals.Sorted := by
  unfold ofText at h
  split at h
  · cases h
  · rename_i v _
    unfold ofValue at h
    split at h
    · cases h
    · rename_i s' hs'
      obtain ⟨-, heq⟩ := andThen_eq_ok_iff.1 h
      cases heq
      simp only [decode?, Option.bind_eq_bind, Option.bind_eq_some_iff, Option.pure_def,
        Option.some.injEq] at hs'
      obtain ⟨m, -, _, -, _, -, _, -, _, -, _, -, globals, hglobals, _, -, _, -, rfl⟩ := hs'
      show Dict.Sorted globals
      unfold Decode.orElse at hglobals
      split at hglobals
      · cases hglobals
        exact List.Pairwise.nil
      · exact Decode.sorted_of_dict? hglobals

namespace Session

/-- One operation of a session, which may fail, or a registration of checks and transforms. -/
inductive Step : Session → Session → Prop where
  | set (s : Session) (field : String) (value : Value) : Step s (s.set field value).2
  | setText (s : Session) (field text : String) : Step s (s.setText field text).2
  | patch (s : Session) (text : String) : Step s (s.patch text).2
  | refresh {σ : Type} (s : Session) (changed : String) (loader : ChoiceLoader σ) (host : σ) :
      Step s (s.refresh changed loader host).1.2
  | loadAll {σ : Type} (s : Session) (loader : ChoiceLoader σ) (host : σ) :
      Step s (s.loadAll loader host).1.2
  | validate (s : Session) : Step s s.validate.2
  | reset (s : Session) : Step s s.reset
  | register (s : Session) (checks : Dict HostCheck) (transforms : Dict Transform) :
      Step s { s with checks := checks, transforms := transforms }

/-- Finitely many operations. -/
abbrev Reaches : Session → Session → Prop := Relation.ReflTransGen Step

/-- Sessions that operations lead to from the first snapshot of a form. -/
def Reachable (s : Session) : Prop :=
  ∃ (schema : Schema) (globals params : Dict Value) (config : Config) (first : Snapshot)
    (checks : Dict HostCheck) (transforms : Dict Transform),
    Snapshot.build schema globals params config = .ok first ∧
      Reaches ⟨first, first, checks, transforms⟩ s

variable {s t : Session}

/-! ## One operation -/

theorem reaches_commit {α : Type} {outcome : Except SessionError (α × Snapshot)}
    (h : ∀ reply next, outcome = .ok (reply, next) → Snapshot.Reaches s.snapshot next) :
    (s.commit outcome).2.first = s.first ∧
      Snapshot.Reaches s.snapshot (s.commit outcome).2.snapshot := by
  cases outcome with
  | error e => exact ⟨rfl, .refl⟩
  | ok result => exact ⟨rfl, h result.1 result.2 rfl⟩

theorem reaches_of_edit {s next : Snapshot} {field : String} {value : Value}
    (h : edit s field value = .ok next) : Snapshot.Reaches s next :=
  .single (.update field value (edit_eq_ok_iff.1 h))

theorem reaches_of_editAll {s next : Snapshot} {entries : List (String × Value)}
    (h : editAll s entries = .ok next) : Snapshot.Reaches s next := by
  induction entries generalizing s with
  | nil =>
    cases h
    exact .refl
  | cons entry rest ih =>
    rw [editAll_cons] at h
    obtain ⟨mid, hmid, hrest⟩ := bind_eq_ok_iff.1 h
    exact (reaches_of_edit hmid).trans (ih hrest)

theorem reaches_answer {σ : Type} (s : Session) (loader : ChoiceLoader σ)
    (requests : List ChoiceRequest) (host : σ) :
    (s.answer loader requests host).1.2.first = s.first ∧
      Snapshot.Reaches s.snapshot (s.answer loader requests host).1.2.snapshot := by
  refine reaches_commit fun reply next h => ?_
  obtain ⟨next', hnext, heq⟩ := map_eq_ok_iff.1 h
  cases heq
  exact .single (.load loader requests host (mapError_eq_ok_iff.1 hnext))

/-- An operation keeps the first snapshot, and goes on from the present one unless it is a reset. -/
theorem Step.first_and_reaches (h : Step s t) :
    t.first = s.first ∧ (Snapshot.Reaches s.snapshot t.snapshot ∨ t.snapshot = s.first) := by
  cases h with
  | set field value =>
    refine (reaches_commit fun reply next h => ?_).imp_right .inl
    obtain ⟨next', hnext, heq⟩ := map_eq_ok_iff.1 h
    cases heq
    exact reaches_of_edit hnext
  | setText field text =>
    refine (reaches_commit fun reply next h => ?_).imp_right .inl
    obtain ⟨value, -, h⟩ := bind_eq_ok_iff.1 h
    obtain ⟨next', hnext, heq⟩ := bind_eq_ok_iff.1 h
    cases heq
    exact reaches_of_edit hnext
  | patch text =>
    refine (reaches_commit fun reply next h => ?_).imp_right .inl
    obtain ⟨entries, -, h⟩ := bind_eq_ok_iff.1 h
    obtain ⟨next', hnext, heq⟩ := bind_eq_ok_iff.1 h
    cases heq
    exact reaches_of_editAll hnext
  | refresh changed loader host => exact (reaches_answer ..).imp_right .inl
  | loadAll loader host => exact (reaches_answer ..).imp_right .inl
  | validate => exact ⟨rfl, .inl (.single (.withReport _))⟩
  | reset => exact ⟨rfl, .inr rfl⟩
  | register checks transforms => exact ⟨rfl, .inl .refl⟩

/-! ## Runs -/

/-- The present snapshot follows from the first, which a session keeps. -/
theorem Reaches.first_and_reaches (hs : s.snapshot = s.first) (h : Reaches s t) :
    t.first = s.first ∧ Snapshot.Reaches t.first t.snapshot := by
  induction h with
  | refl => exact ⟨rfl, hs ▸ .refl⟩
  | tail _ hstep ih =>
    obtain ⟨hfirst, hreach | hreset⟩ := hstep.first_and_reaches
    · exact ⟨hfirst.trans ih.1, hfirst ▸ ih.2.trans hreach⟩
    · exact ⟨hfirst.trans ih.1, by rw [hfirst, hreset]⟩

theorem exists_build_of_start {source : SessionSource} {checks : Dict HostCheck}
    {transforms : Dict Transform} (h : start source checks transforms = .ok s) :
    s.snapshot = s.first ∧ ∃ (schema : Schema) (globals params : Dict Value) (config : Config),
      schema.globals.Sorted ∧
      Snapshot.build schema globals params config = .ok s.first := by
  obtain ⟨schema, hschema, h⟩ := bind_eq_ok_iff.1 h
  obtain ⟨globals, -, h⟩ := bind_eq_ok_iff.1 h
  obtain ⟨params, -, h⟩ := bind_eq_ok_iff.1 h
  obtain ⟨config, -, h⟩ := bind_eq_ok_iff.1 h
  obtain ⟨first, hfirst, h⟩ := bind_eq_ok_iff.1 h
  cases h
  exact ⟨rfl, schema, globals, params, config,
    Schema.sorted_globals_of_ofText (mapError_eq_ok_iff.1 hschema), mapError_eq_ok_iff.1 hfirst⟩

/-- What operations lead to from a session that was started from texts is reachable. -/
theorem reachable_of_start {source : SessionSource} {checks : Dict HostCheck}
    {transforms : Dict Transform} (h : start source checks transforms = .ok s)
    (hreach : Reaches s t) : t.Reachable := by
  obtain ⟨hsame, schema, globals, params, config, -, hbuild⟩ := exists_build_of_start h
  have hs : (⟨s.first, s.first, s.checks, s.transforms⟩ : Session) = s := by
    nth_rewrite 2 [← hsame]
    rfl
  refine ⟨schema, globals, params, config, s.first, s.checks, s.transforms, hbuild, ?_⟩
  rwa [hs]

theorem Reachable.snapshot (h : s.Reachable) : s.snapshot.Reachable := by
  obtain ⟨schema, globals, params, config, first, checks, transforms, hbuild, hreach⟩ := h
  obtain ⟨hfirst, hsteps⟩ := hreach.first_and_reaches rfl
  rw [hfirst] at hsteps
  exact ⟨schema, globals, params, config, first, hbuild, hsteps⟩

/-! ## Resets -/

/-- From every snapshot that the steps of a form lead to, a reset leads back to the first one, in
all it holds. From every session that operations lead to, the reset of the session leads back to the
snapshot it began with, and the reset of its present snapshot leads there too. -/
theorem resets_return_to_start :
    (∀ (schema : Schema) (globals params : Dict Value) (config : Config) (first s : Snapshot),
      schema.globals.Sorted → Snapshot.build schema globals params config = .ok first →
      Snapshot.Reaches first s → s.reset = .ok first) ∧
    ∀ (source : SessionSource) (checks : Dict HostCheck) (transforms : Dict Transform)
      (s t : Session), start source checks transforms = .ok s → Reaches s t →
      t.reset.snapshot = s.snapshot ∧ t.snapshot.reset = .ok t.reset.snapshot := by
  refine ⟨fun schema globals params config first s hglobals hbuild hreach =>
    hreach.reset_eq hglobals hbuild, fun source checks transforms s t hstart hreach => ?_⟩
  obtain ⟨hsame, schema, globals, params, config, hglobals, hbuild⟩ :=
    exists_build_of_start hstart
  obtain ⟨hfirst, hsteps⟩ := hreach.first_and_reaches hsame
  rw [← hfirst] at hbuild
  exact ⟨hfirst.trans hsame.symm, hsteps.reset_eq hglobals hbuild⟩

/-- A trip that begins at the home of the traveller. -/
def tripText : String :=
  "\x7b\"globals\":\x7b\"home\":\"FR\"\x7d,\"sections\":[\x7b\"id\":\"trip\",
  \"fields\":[\x7b\"id\":\"country\",\"type\":\"text\",
  \"defaultValue\":\"$\x7bglobals.home\x7d\"\x7d]\x7d]\x7d"

/-- The traveller is at home elsewhere. -/
def tripSource : SessionSource where
  schema := tripText
  globals := some "\x7b\"home\": \"DE\"\x7d"

/-- A step over the border, followed by a validation. -/
def abroad (s : Session) : Session := (s.set "country" (.string "FR")).2.validate.2

theorem tripText_resets :
    (∃ schema first, Schema.ofText tripText = .ok schema ∧
      Snapshot.build schema [("home", .string "DE")] [] {} = .ok first ∧
      (first.applyAll [.setError "country" "closed"]).reset = .ok first) ∧
    ∃ s, start tripSource [] [] = .ok s ∧
      (s.snapshot.values.get? "country").any (·.same (.string "DE")) = true ∧
      ((abroad s).snapshot.values.get? "country").any (·.same (.string "FR")) = true ∧
      (abroad s).reset.snapshot = s.snapshot ∧
      (abroad s).snapshot.reset = .ok (abroad s).reset.snapshot := by
  obtain ⟨hsnapshots, hsessions⟩ := resets_return_to_start
  constructor
  · obtain ⟨schema, hschema, hsome⟩ := exists_ok_of_any
      (show (Schema.ofText tripText).toOption.any (fun schema =>
        (Snapshot.build schema [("home", .string "DE")] [] {}).toOption.isSome) = true
        by decide +kernel)
    obtain ⟨first, hbuild⟩ := exists_ok_of_isSome hsome
    exact ⟨schema, first, hschema, hbuild, hsnapshots _ _ _ _ _ _
      (Schema.sorted_globals_of_ofText hschema) hbuild (.single (.applyAll _))⟩
  · obtain ⟨s, hs, hcomputed⟩ := exists_ok_of_any
      (show (start tripSource [] []).toOption.any (fun s =>
        (s.snapshot.values.get? "country").any (·.same (.string "DE")) &&
        ((abroad s).snapshot.values.get? "country").any (·.same (.string "FR"))) = true
        by decide +kernel)
    rw [Bool.and_eq_true] at hcomputed
    have hreach : Reaches s (abroad s) := .tail (.single (.set s "country" _)) (.validate _)
    exact ⟨s, hs, hcomputed.1, hcomputed.2, hsessions _ _ _ _ _ hs hreach⟩

end Session

end FormEngine
