import FormEngine.Expr.Evaluate
import FormEngine.Proofs.Path.Access

/-!
# What an evaluation depends on

The outcome of an expression depends on the values of its variables only (`evaluate_congr`), and a
variable that is not marked depends on the one entry where its path enters the values of fields
(`evaluate_congr_data`).
-/

namespace FormEngine

namespace Scope

variable {d e globals params : Dict Value} {resolution : Resolution} {path : String}

theorem ofPath_of_not_isContext (h : Address.isContext path = false) :
    Address.ofPath path = .field path := by
  unfold Address.isContext Address.ofPath at h
  unfold Address.ofPath
  cases hglobals : Text.after? "globals.".toList path.toList with
  | some rest =>
    rw [hglobals] at h
    cases h
  | none =>
    rw [hglobals] at h
    cases hparams : Text.after? "params.".toList path.toList with
    | some rest =>
      rw [hparams] at h
      cases h
    | none => rfl

/-- A variable has one value in dictionaries that agree where its path enters them. -/
theorem resolve?_congr
    (h : Address.isContext path = false →
      ∀ key, Path.head? path = some key → d.get? key = e.get? key) :
    resolve? ⟨d, globals, params, resolution⟩ path =
      resolve? ⟨e, globals, params, resolution⟩ path := by
  cases hp : Address.isContext path with
  | true =>
    unfold Address.isContext at hp
    unfold resolve?
    split <;> simp_all
  | false =>
    unfold resolve?
    simp only [ofPath_of_not_isContext hp, Path.lookup_congr (h hp)]

theorem resolve?_of_lookup {value : Value} (hp : Address.isContext path = false)
    (h : Path.lookup d path = some value) :
    resolve? ⟨d, globals, params, resolution⟩ path = some value := by
  unfold resolve?
  rw [ofPath_of_not_isContext hp]
  cases resolution <;> simp [h]

end Scope

namespace Expr

@[simp] theorem mem_variablePaths {e : Expr} {path : String} :
    path ∈ e.variablePaths ↔ path ∈ e.mentions := mem_distinct

mutual

theorem evaluate_congr_mentions {s t : Scope} : ∀ e : Expr,
    (∀ path ∈ e.mentions, s.resolve? path = t.resolve? path) → e.evaluate s = e.evaluate t
  | .literal _, _ => rfl
  | .list items, h => by
    rw [evaluate, evaluate, evaluateAll_congr items h]
  | .var path fallback, h => by
    rw [evaluate, evaluate, h path (by simp [mentions])]
  | .op o args, h => by
    rw [evaluate, evaluate, evaluateAll_congr args h]

theorem evaluateAll_congr {s t : Scope} : ∀ es : List Expr,
    (∀ path ∈ mentionsOf es, s.resolve? path = t.resolve? path) →
      evaluateAll s es = evaluateAll t es
  | [], _ => rfl
  | e :: rest, h => by
    simp only [mentionsOf, List.mem_append] at h
    rw [evaluateAll, evaluateAll, evaluate_congr_mentions e fun p hp => h p (.inl hp),
      evaluateAll_congr rest fun p hp => h p (.inr hp)]

end

/-- Two scopes that agree on the variables of an expression give it one outcome. -/
theorem evaluate_congr {s t : Scope} {e : Expr}
    (h : ∀ path ∈ e.variablePaths, s.resolve? path = t.resolve? path) :
    e.evaluate s = e.evaluate t :=
  evaluate_congr_mentions e fun path hp => h path (mem_variablePaths.2 hp)

theorem evaluate_congr_data {d d' globals params : Dict Value} {resolution : Resolution}
    {e : Expr} (h : ∀ path ∈ e.variablePaths, Address.isContext path = false →
      ∀ key, Path.head? path = some key → d.get? key = d'.get? key) :
    e.evaluate ⟨d, globals, params, resolution⟩ =
      e.evaluate ⟨d', globals, params, resolution⟩ :=
  evaluate_congr fun path hpath => Scope.resolve?_congr (h path hpath)

end Expr

end FormEngine
