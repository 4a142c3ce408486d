/-!
# Steps that may fail

When steps in `Except` succeed or fail, and how a computed answer becomes a statement about them.
-/

namespace FormEngine

variable {ε α β : Type}

/-! ## One step after another -/

section Bind

variable {e : Except ε α} {next : α → Except ε β}

/-- Two steps succeed when the first does, and the second on what it gives. -/
theorem bind_eq_ok_iff {b : β} : e >>= next = .ok b ↔ ∃ a, e = .ok a ∧ next a = .ok b := by
  cases e with
  | error e => simp [bind, Except.bind]
  | ok a => simp [bind, Except.bind]

theorem bind_eq_error_iff {x : ε} :
    e >>= next = .error x ↔ e = .error x ∨ ∃ a, e = .ok a ∧ next a = .error x := by
  cases e with
  | error e => simp [bind, Except.bind]
  | ok a => simp [bind, Except.bind]

theorem andThen_eq_ok_iff {check : Except ε Unit} {rest : Except ε β} {b : β} :
    (check >>= fun _ => rest) = .ok b ↔ check = .ok () ∧ rest = .ok b := by
  cases check <;> simp [bind, Except.bind]

theorem map_eq_ok_iff {f : α → β} {b : β} : e.map f = .ok b ↔ ∃ a, e = .ok a ∧ f a = b := by
  cases e <;> simp [Except.map]

theorem exists_map_eq_ok_iff {f : α → β} : (∃ b, e.map f = .ok b) ↔ ∃ a, e = .ok a := by
  cases e <;> simp [Except.map]

theorem mapError_eq_ok_iff {ε' : Type} {f : ε → ε'} {a : α} :
    e.mapError f = .ok a ↔ e = .ok a := by
  cases e with
  | ok b =>
    show Except.ok b = Except.ok a ↔ _
    rw [Except.ok.injEq, Except.ok.injEq]
  | error x => constructor <;> intro h <;> cases h

end Bind

/-! ## Computed answers -/

section Computed

variable {e : Except ε α}

theorem exists_ok_of_isSome (h : e.toOption.isSome = true) : ∃ a, e = .ok a := by
  cases e with
  | error e => cases h
  | ok a => exact ⟨a, rfl⟩

theorem exists_ok_of_any {p : α → Bool} (h : e.toOption.any p = true) :
    ∃ a, e = .ok a ∧ p a = true := by
  cases e with
  | error e => cases h
  | ok a => exact ⟨a, rfl, h⟩

theorem exists_error_of_isOk (h : e.isOk = false) : ∃ x, e = .error x := by
  cases e with
  | error x => exact ⟨x, rfl⟩
  | ok a => cases h

end Computed

end FormEngine
