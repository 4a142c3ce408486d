import FormEngine.Proofs.Expr.Dependence
import FormEngine.Proofs.RuleGraph.Index

/-!
# What the index of rules covers

A change of one field should matter only to the rules that are indexed under it. This holds of every
condition that enters the field by name. A path that enters it by an index, as `[5]` enters the
field `5`, is looked up but not indexed, and a condition on such a path depends on a field that does
not make the rule run again.
-/

namespace FormEngine

/-- Two dictionaries that differ at one key at most. -/
def AgreeOff {α : Type} (key : String) (d e : Dict α) : Prop :=
  ∀ other, other ≠ key → d.get? other = e.get? other

/-- Whether a path enters a field by an index in front. -/
def Path.entersByIndex (field path : String) : Bool :=
  !Address.isContext path && leadsWithIndex path && head? path == some field

namespace RuleGraph

variable {s : Schema} {c : Config} {g : RuleGraph}

/-- A read that enters a declared field by name is indexed under it. -/
theorem mem_readKeys_of_head? {fields : Dict Location} {path field : String}
    (hfield : fields.has field = true) (hp : Address.isContext path = false)
    (hhead : Path.head? path = some field) (hindex : Path.leadsWithIndex path = false) :
    field ∈ readKeys fields path := by
  unfold readKeys
  rw [if_neg (by simp [hp]), mem_distinct, Path.rootKey?_of_head? hhead hindex]
  simp [Option.filter, hfield]

theorem entersByIndex_of_notMem_rulesFor (hs : s.WellNamed) {field id : String} {node : RuleNode}
    (hfield : (ofSchema s).hasField field = true) (hnode : (ofSchema s).rule? id = some node)
    (hid : id ∉ (ofSchema s).rulesFor field) {path : String} (hpath : path ∈ node.reads)
    (hp : Address.isContext path = false) (hhead : Path.head? path = some field) :
    Path.entersByIndex field path = true := by
  have hindex : Path.leadsWithIndex path = true := by
    by_contra hindex
    rw [Bool.not_eq_true] at hindex
    exact hid ((mem_rulesFor_of_rule? hs hnode).2
      ⟨path, hpath, mem_readKeys_of_head? hfield hp hhead hindex⟩)
  simp [Path.entersByIndex, hp, hindex, hhead]

/-- A variable that enters a field can be made true and untrue by that field alone. -/
theorem exists_agreeOff_truthy {field path : String} (hp : Address.isContext path = false)
    (hhead : Path.head? path = some field) :
    ∃ d e : Dict Value, AgreeOff field d e ∧
      ∀ (globals params : Dict Value) (resolution : Resolution) (fallback : Option Value),
        ((Expr.var path fallback).evaluate ⟨d, globals, params, resolution⟩).value.truthy = true ∧
        ((Expr.var path fallback).evaluate ⟨e, globals, params, resolution⟩).value.truthy =
          false := by
  obtain ⟨yes, hyes⟩ := Path.exists_lookup_eq hhead (.bool true)
  obtain ⟨no, hno⟩ := Path.exists_lookup_eq hhead (.bool false)
  refine ⟨[(field, yes)], [(field, no)], ?_, ?_⟩
  · intro other hother
    simp [Dict.get?, Ne.symm hother]
  · intro globals params resolution fallback
    rw [Expr.evaluate, Expr.evaluate, Scope.resolve?_of_lookup hp hyes,
      Scope.resolve?_of_lookup hp hno]
    exact ⟨rfl, rfl⟩

/-- The index of rules covers a declared field exactly as far as conditions enter it by name. A rule
outside `rulesFor field` whose condition never enters the field by an index has one outcome on any
two dictionaries that agree off the field. Every variable that does enter it so is true on one
dictionary and untrue on another that agrees off the field. -/
theorem rulesFor_covers_reads_by_name (hg : build s c = .ok g) {field id : String}
    (hfield : g.hasField field = true) {node : RuleNode} (hnode : g.rule? id = some node)
    (hid : id ∉ g.rulesFor field) :
    ((∀ path ∈ node.rule.condition.variablePaths, Path.entersByIndex field path = false) →
      ∀ d e : Dict Value, AgreeOff field d e →
        ∀ (globals params : Dict Value) (resolution : Resolution),
          node.rule.condition.evaluate ⟨d, globals, params, resolution⟩ =
            node.rule.condition.evaluate ⟨e, globals, params, resolution⟩) ∧
    ∀ path ∈ node.rule.condition.variablePaths, Path.entersByIndex field path = true →
      ∃ d e : Dict Value, AgreeOff field d e ∧
        ∀ (globals params : Dict Value) (resolution : Resolution) (fallback : Option Value),
          ((Expr.var path fallback).evaluate ⟨d, globals, params, resolution⟩).value.truthy =
            true ∧
          ((Expr.var path fallback).evaluate ⟨e, globals, params, resolution⟩).value.truthy =
            false := by
  obtain ⟨hs, rfl⟩ := build_ok hg
  obtain ⟨-, hreads, -⟩ := reads_of_rule? hs hnode
  constructor
  · intro hname d e hagree globals params resolution
    refine Expr.evaluate_congr_data fun path hpath hp key hhead => hagree key ?_
    rintro rfl
    have hindex :=
      entersByIndex_of_notMem_rulesFor hs hfield hnode hid (hreads ▸ hpath) hp hhead
    rw [hname path hpath] at hindex
    cases hindex
  · intro path _ henters
    simp only [Path.entersByIndex, Bool.and_eq_true, Bool.not_eq_true', beq_iff_eq] at henters
    exact exists_agreeOff_truthy henters.1.1 henters.2

/-! ## A field whose id is a number -/

/-- A form that hides its note while the field `5`, read as `[5]`, holds `x`. -/
def numberedForm : Schema where
  sections := [{
    id := "main"
    fields := [{ id := "5", kind := .text }, { id := "note", kind := .text }] }]
  rules := [{
    id := "hide_note"
    condition := .op (.relation .equal) [.var "[5]" none, .literal (.string "x")]
    actions := [.setVisible .field "note" false] }]

/-- The rule is indexed neither under `5` nor under `note`; its condition depends on `5`. -/
theorem rulesFor_misses_index_read :
    ∃ g node, build numberedForm {} = .ok g ∧ g.hasField "5" = true ∧
      g.rule? "hide_note" = some node ∧ "hide_note" ∉ g.rulesFor "5" ∧
      ∃ d e : Dict Value, AgreeOff "5" d e ∧
        (node.rule.condition.evaluate ⟨d, [], [], .fallback⟩).value.truthy ≠
          (node.rule.condition.evaluate ⟨e, [], [], .fallback⟩).value.truthy := by
  have hb : build numberedForm {} = .ok _ := build_eq_of_isSome (by decide +kernel)
  refine ⟨_, _, hb, by decide +kernel, (rule?_ofSchema (build_ok hb).1).2
    ⟨_, List.mem_cons_self, rfl, rfl⟩, by decide +kernel, [("5", .string "x")], [], ?_, ?_⟩
  · intro other hother
    simp [Dict.get?, Ne.symm hother]
  · decide +kernel

theorem numberedForm_covers_note :
    ∃ g node, build numberedForm {} = .ok g ∧ g.rule? "hide_note" = some node ∧
      ∀ d e : Dict Value, AgreeOff "note" d e →
        ∀ (globals params : Dict Value) (resolution : Resolution),
          node.rule.condition.evaluate ⟨d, globals, params, resolution⟩ =
            node.rule.condition.evaluate ⟨e, globals, params, resolution⟩ := by
  have hb : build numberedForm {} = .ok _ := build_eq_of_isSome (by decide +kernel)
  have hnode : (ofSchema numberedForm).rule? "hide_note" = some _ :=
    (rule?_ofSchema (build_ok hb).1).2 ⟨_, List.mem_cons_self, rfl, rfl⟩
  refine ⟨_, _, hb, hnode, ?_⟩
  exact (rulesFor_covers_reads_by_name hb (by decide +kernel) hnode
    (show "hide_note" ∉ (ofSchema numberedForm).rulesFor "note" by decide +kernel)).1
    (by decide +kernel)

end RuleGraph

end FormEngine
