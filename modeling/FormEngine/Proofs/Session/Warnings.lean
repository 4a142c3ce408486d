import FormEngine.Proofs.Session.Patch
import FormEngine.Proofs.Session.Runs

/-!
# Warnings of a patch

A patch sets its fields one after another, each by an update of its own that begins without
warnings. So the snapshot after a patch has the warnings of the last update, and what the updates
before it have raised is lost unless the last one raises it again (`warnings_of_patch`). Where
evaluation warnings undo a step, only warnings about the limit on passes can be lost.
-/

namespace FormEngine

namespace Snapshot

/-- The snapshot that an update of a declared field leads to, if its warnings do not undo it. -/
def updated (s : Snapshot) (field : String) (value : Value) : Snapshot :=
  { (s.cascadeOf field value).last with
    warnings := s.updateWarnings field (s.cascadeOf field value) }

/-- The warnings that setting fields one after another raises, for each field those of its own
update. -/
def raised : Snapshot → List (String × Value) → List (List Warning)
  | _, [] => []
  | s, entry :: rest =>
    s.updateWarnings entry.1 (s.cascadeOf entry.1 entry.2) ::
      raised (s.updated entry.1 entry.2) rest

end Snapshot

namespace Session

variable {s t : Session} {entries : List (String × Value)}

theorem set_eq_ok_updated {field : String} {value : Value} (h : s.set field value = (.ok (), t)) :
    t = { s with snapshot := s.snapshot.updated field value } ∧
      s.snapshot.form.discards
        (s.snapshot.updateWarnings field (s.snapshot.cascadeOf field value)) = false := by
  obtain ⟨next, hnext, rfl⟩ := set_eq_ok_iff.1 h
  obtain ⟨-, hkept, rfl⟩ := Snapshot.update_eq_ok_iff.1 hnext
  exact ⟨rfl, hkept⟩

theorem SetAll.getLast?_raised (h : SetAll s entries t) :
    (s.snapshot.raised entries).getLast?.getD s.snapshot.warnings = t.snapshot.warnings := by
  induction h with
  | nil s => rfl
  | cons h _ ih =>
    obtain ⟨rfl, -⟩ := set_eq_ok_updated h
    rw [Snapshot.raised, List.getLast?_cons, Option.getD_some]
    exact ih

/-- No field that is set raises warnings that undo its update. -/
theorem SetAll.not_discards (h : SetAll s entries t) :
    ∀ ws ∈ s.snapshot.raised entries, s.snapshot.form.discards ws = false := by
  induction h with
  | nil s => exact fun ws hws => absurd hws List.not_mem_nil
  | @cons s mid t entry rest h _ ih =>
    have hform : mid.snapshot.form = s.snapshot.form := by
      obtain ⟨next, hnext, rfl⟩ := set_eq_ok_iff.1 h
      exact Snapshot.form_update hnext
    obtain ⟨rfl, hkept⟩ := set_eq_ok_updated h
    intro ws hws
    rcases List.mem_cons.1 hws with rfl | hws
    · exact hkept
    · rw [← hform]
      exact ih ws hws

/-- A patch that succeeds sets its fields in the order of their keys. The warnings after it are
those that the last of them raises. So it keeps the warnings of all its entries exactly when those
before the last raise nothing that the last does not, and a patch of one entry does. Where
evaluation warnings undo a step, no entry raises any. -/
theorem warnings_of_patch {text : String} {o : PatchOutcome} (h : s.patch text = (.ok o, t)) :
    ∃ entries, Json.read? text = some (.object entries) ∧ Dict.keys entries = o.changed ∧
      o.changed.Pairwise (· < ·) ∧ SetAll s entries t ∧
      (s.snapshot.raised entries).getLast? = some t.snapshot.warnings ∧
      ((∀ ws ∈ s.snapshot.raised entries, ws ⊆ t.snapshot.warnings) ↔
        ∀ ws ∈ (s.snapshot.raised entries).dropLast, ws ⊆ t.snapshot.warnings) ∧
      (s.snapshot.form.config.discardOnWarning = true →
        ∀ ws ∈ s.snapshot.raised entries, ∀ w ∈ ws, w.isEvaluation = false) := by
  have hpatched := patched_of_patch h
  obtain ⟨members, -, hne, hmembers⟩ := hpatched.keys
  obtain ⟨entries, hread, hkeys, hset⟩ := hpatched.sets
  have hlast : (s.snapshot.raised entries).getLast? = some t.snapshot.warnings := by
    cases entries with
    | nil =>
      obtain ⟨m, hm⟩ := List.exists_mem_of_ne_nil members hne
      have hkey := (hmembers m.1).2 (List.mem_map_of_mem hm)
      rw [hkeys] at hkey
      cases hkey
    | cons entry rest =>
      have hwarnings := hset.getLast?_raised
      rw [Snapshot.raised, List.getLast?_cons, Option.getD_some] at hwarnings
      rw [Snapshot.raised, List.getLast?_cons, hwarnings]
  refine ⟨entries, hread, hkeys.symm, hpatched.sorted, hset, hlast, ⟨fun hall ws hws => ?_,
    fun hall ws hws => ?_⟩, fun hdiscard ws hws w hw => ?_⟩
  · exact hall ws (List.mem_of_mem_dropLast hws)
  · rw [← List.dropLast_append_getLast? _ hlast, List.mem_append, List.mem_singleton] at hws
    rcases hws with hws | rfl
    · exact hall ws hws
    · exact List.Subset.refl _
  · have hkept := hset.not_discards ws hws
    rw [Form.discards, hdiscard, Bool.true_and, List.any_eq_false] at hkept
    simpa using hkept w hw

/-- A badge with conditions that are malformed: one has an operator that there is none of, the other
lacks an operand. -/
def badgeForm : Schema where
  sections := [{
    id := "badge"
    fields := [{ id := "code", kind := .text }, { id := "name", kind := .text }] }]
  rules := [
    { id := "near_code"
      condition := .op (.unknown "near") [.var "code" none]
      actions := [.setError "code" "taken"] },
    { id := "same_name"
      condition := .op (.relation .equal) [.var "name" none]
      actions := [.setError "name" "taken"] }]

def badgeSession : Session :=
  ⟨(Form.ofSchema badgeForm [] [] {}).start, (Form.ofSchema badgeForm [] [] {}).start, [], []⟩

theorem badgeSession_reachable : badgeSession.Reachable :=
  ⟨badgeForm, [], [], {}, _, [], [], Snapshot.build_eq_start (by decide +kernel), .refl⟩

def badgePatch : String := "\x7b\"code\": \"7\", \"name\": \"Ada\"\x7d"

theorem exists_badgePatch :
    ∃ o entries, (badgeSession.patch badgePatch).1 = .ok o ∧
      Json.read? badgePatch = some (.object entries) ∧
      badgeSession.snapshot.raised entries =
        [[.unknownOperator "near"], [.arity "==" (.exactly 2) 1]] := by
  obtain ⟨o, ho⟩ := exists_ok_of_isSome
    (show (badgeSession.patch badgePatch).1.toOption.isSome = true by decide +kernel)
  obtain ⟨entries, hread, -⟩ := (patched_of_patch (patch_eq_of_reply ho)).sets
  have hraised : (Json.read? badgePatch).any (fun v =>
      badgeSession.snapshot.raised v.members ==
        [[.unknownOperator "near"], [.arity "==" (.exactly 2) 1]]) = true := by decide +kernel
  rw [hread, Option.any_some, beq_iff_eq] at hraised
  exact ⟨o, entries, ho, hread, hraised⟩

/-- The warning that the code of a badge raises is gone when the name is patched with it. -/
theorem patch_loses_warnings :
    ∃ (s t : Session) (text : String) (o : PatchOutcome) (entries : List (String × Value)),
      s.Reachable ∧ s.patch text = (.ok o, t) ∧ Json.read? text = some (.object entries) ∧
      SetAll s entries t ∧ ∃ ws ∈ s.snapshot.raised entries, ¬ ws ⊆ t.snapshot.warnings := by
  obtain ⟨o, entries, ho, hread, hraised⟩ := exists_badgePatch
  have hpatch := patch_eq_of_reply ho
  obtain ⟨entries', hread', -, hset⟩ := (patched_of_patch hpatch).sets
  cases hread.symm.trans hread'
  have hlast := hset.getLast?_raised
  rw [hraised] at hlast
  refine ⟨badgeSession, _, badgePatch, o, entries, badgeSession_reachable, hpatch, hread, hset,
    [.unknownOperator "near"], by simp [hraised], fun hsub => ?_⟩
  rw [← hlast] at hsub
  simpa using hsub List.mem_cons_self

theorem badgeSession_warnings :
    ∃ o t, badgeSession.patch badgePatch = (.ok o, t) ∧
      t.snapshot.warnings = [.arity "==" (.exactly 2) 1] := by
  obtain ⟨o, entries, ho, hread, hraised⟩ := exists_badgePatch
  obtain ⟨entries', hread', -, -, -, hlast, -⟩ := warnings_of_patch (patch_eq_of_reply ho)
  cases hread.symm.trans hread'
  rw [hraised] at hlast
  exact ⟨o, _, patch_eq_of_reply ho, (Option.some.inj hlast).symm⟩

end Session

end FormEngine
