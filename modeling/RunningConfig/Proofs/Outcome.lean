import Mathlib.Data.List.Forall2
/-!
# Steps that can fail

A sequence of steps that can fail is taken apart by what each step gives, and a traversal by what
each item gives, so that no later proof opens the monad.
-/

namespace RunningConfig

variable {ε α β : Type}

/-- A sequence succeeds exactly when each of its steps does. -/
theorem bind_eq_ok {first : Except ε α} {next : α → Except ε β} {result : β} :
    (first >>= next) = .ok result ↔ ∃ value, first = .ok value ∧ next value = .ok result := by
  cases first <;> simp [bind, Except.bind]

/-- What is returned is the result. -/
theorem pure_eq_ok {value result : α} :
    (pure value : Except ε α) = .ok result ↔ value = result := by
  simp [pure, Except.pure]

/-- A traversal succeeds exactly when each item does, with one result for each, in order. -/
theorem mapM_eq_ok_iff {act : α → Except ε β} {items : List α} {results : List β} :
    items.mapM act = .ok results ↔
      List.Forall₂ (fun item result => act item = .ok result) items results := by
  induction items generalizing results with
  | nil => rw [List.mapM_nil, pure_eq_ok, List.forall₂_nil_left_iff, eq_comm]
  | cons item items ih =>
    rw [List.mapM_cons, List.forall₂_cons_left_iff]
    simp only [bind_eq_ok, pure_eq_ok, ih]
    constructor
    · rintro ⟨result, first, rest, others, rfl⟩
      exact ⟨result, rest, first, others, rfl⟩
    · rintro ⟨result, rest, first, others, rfl⟩
      exact ⟨result, first, rest, others, rfl⟩

end RunningConfig
