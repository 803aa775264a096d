/-!
# Computations that may fail

What is known of the parts of a computation that has come to a value.
-/

namespace FencedDiff

variable {ε α β : Type}

theorem bind_eq_ok_iff {x : Except ε α} {f : α → Except ε β} {b : β} :
    x >>= f = .ok b ↔ ∃ a, x = .ok a ∧ f a = .ok b := by
  cases x with
  | error e =>
    constructor
    · intro h
      cases h
    · rintro ⟨_, h, _⟩
      cases h
  | ok a =>
    constructor
    · exact fun h => ⟨a, rfl, h⟩
    · rintro ⟨_, h, hf⟩
      cases h
      exact hf

section MapError

variable {ε' : Type} {g : ε → ε'} {a : α}

theorem mapError_ok : (Except.ok a : Except ε α).mapError g = .ok a := rfl

theorem mapError_error {e : ε} : (Except.error e : Except ε α).mapError g = .error (g e) := rfl

theorem mapError_eq_ok_iff {x : Except ε α} : x.mapError g = .ok a ↔ x = .ok a := by
  cases x with
  | error e =>
    rw [mapError_error]
    exact ⟨nofun, nofun⟩
  | ok b => rw [mapError_ok, Except.ok.injEq, Except.ok.injEq]

end MapError

/-- A value that is not the one for the other case shows that the condition holds. -/
theorem of_ite_eq_ok {c : Prop} [Decidable c] {x : Except ε α} {a b : α}
    (h : (if c then x else .ok a) = .ok b) (hne : a ≠ b) : c ∧ x = .ok b := by
  by_cases hc : c
  · rw [if_pos hc] at h
    exact ⟨hc, h⟩
  · rw [if_neg hc] at h
    exact absurd (Except.ok.inj h) hne

theorem mapM_eq_ok_map {f : α → Except ε β} {g : α → β} {xs : List α}
    (h : ∀ x ∈ xs, f x = .ok (g x)) : xs.mapM f = .ok (xs.map g) := by
  induction xs with
  | nil => rfl
  | cons x xs ih =>
    rw [List.forall_mem_cons] at h
    rw [List.mapM_cons, h.1, ih h.2]
    rfl

end FencedDiff
