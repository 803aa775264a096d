import Mathlib.Data.List.Basic

/-!
# Where two lists differ

`differences` counts the positions at which two lists differ; a position beyond the
end of one of them counts. Lists are the same when there is none
(`differences_eq_zero_iff`). What holds for lists that go in step is proved by
induction on both, for which the positions are counted from the front
(`differences_cons`).
-/

namespace FencedDiff

variable {α β : Type} [BEq α]

/-- The number of positions at which two lists differ. -/
def differences (xs ys : List α) : Nat :=
  (List.range (max xs.length ys.length)).countP fun i => xs[i]? != ys[i]?

theorem differences_eq_zero_iff [LawfulBEq α] {xs ys : List α} :
    differences xs ys = 0 ↔ xs = ys := by
  rw [differences, List.countP_eq_zero]
  constructor
  · intro h
    apply List.ext_getElem?
    intro i
    by_cases hi : i < max xs.length ys.length
    · simpa using h i (List.mem_range.2 hi)
    · rw [Nat.not_lt, Nat.max_le] at hi
      rw [List.getElem?_eq_none hi.1, List.getElem?_eq_none hi.2]
  · rintro rfl
    simp

theorem differences_cons (x y : α) (xs ys : List α) :
    differences (x :: xs) (y :: ys) = differences xs ys + if x != y then 1 else 0 := by
  have hlength : max (x :: xs).length (y :: ys).length = max xs.length ys.length + 1 := by
    rw [List.length_cons, List.length_cons, Nat.add_max_add_right]
  rw [differences, hlength, List.range_succ_eq_map, List.countP_cons, List.countP_map]
  rfl

theorem differences_append {xs ys : List α} (h : xs.length = ys.length) (xs' ys' : List α) :
    differences (xs ++ xs') (ys ++ ys') = differences xs ys + differences xs' ys' := by
  induction xs generalizing ys with
  | nil =>
      obtain rfl : ys = [] := List.length_eq_zero_iff.1 h.symm
      simp [differences]
  | cons x xs ih =>
      cases ys with
      | nil => cases h
      | cons y ys =>
          rw [List.cons_append, List.cons_append, differences_cons, differences_cons,
            ih (Nat.succ.inj h), Nat.add_right_comm]

theorem differences_map_map (f g : β → α) (xs : List β) :
    differences (xs.map f) (xs.map g) = xs.countP fun x => f x != g x := by
  induction xs with
  | nil => rfl
  | cons x xs ih =>
      rw [List.map_cons, List.map_cons, differences_cons, ih, List.countP_cons]

/-- A map that takes no two elements to the same keeps lists apart where they are. -/
theorem differences_map_of_injective [LawfulBEq α] [BEq β] [LawfulBEq β] {f : α → β}
    (hf : Function.Injective f) (xs ys : List α) :
    differences (xs.map f) (ys.map f) = differences xs ys := by
  rw [differences, differences, List.length_map, List.length_map]
  apply List.countP_congr
  intro i _
  rw [List.getElem?_map, List.getElem?_map, bne_iff_ne, bne_iff_ne]
  exact (Option.map_injective hf).ne_iff

end FencedDiff
