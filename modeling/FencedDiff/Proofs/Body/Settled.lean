import FencedDiff.Proofs.Body.Realign

/-!
# Bodies that both policies leave alone

Settling a body for one policy does not unsettle it for the other in one direction:
where all code has reached the fence there is no marked line left unless the fence
is not indented at all, and then marked lines stay where they are. A body without
marked lines gets none from moving its code right, for a marker behind spaces is no
marker.
-/

namespace FencedDiff

open Bytes

theorem BodyLine.leadingSpaces_of_changed {l : BodyLine} (h : l.kind = .changed) :
    leadingSpaces l.content = 0 := by
  obtain ⟨b, code, hcontent, hb⟩ := LineKind.exists_marker_of_changed h
  rw [hcontent]
  apply leadingSpaces_cons_of_ne
  rcases hb with rfl | rfl
  · decide
  · decide

/-- A shifted line does not move if the line did not. -/
theorem BodyLine.moved_shifted {l : BodyLine} {n : Nat} (h : l.moved n = l.content) (pad : Nat)
    (ending : Bytes) : (BodyLine.mk (l.shifted pad) ending).moved n = l.shifted pad := by
  cases pad with
  | zero =>
      rw [shifted_zero]
      exact h
  | succ pad =>
      cases hcode : l.isCode with
      | false =>
          rw [shifted_of_not_isCode hcode]
          exact h
      | true =>
          apply moved_of_ne_changed
          rw [kind, shifted, if_pos hcode, LineKind.ofContent_spaces_succ_append]
          split
          · simp
          · simp

namespace Policy

variable {n : Nat} {lines : List BodyLine}

theorem Settled.le_codeIndent (h : Settled .baseline n lines) {l : BodyLine} (hl : l ∈ lines)
    (hcode : l.isCode = true) : n ≤ codeIndent lines := by
  by_contra hlt
  obtain ⟨pad, hpad⟩ := Nat.exists_eq_add_of_lt (Nat.not_le.1 hlt)
  have hshifted : l.shifted (pad + 1) ≠ l.content := BodyLine.shifted_succ_ne_iff.2 hcode
  apply hshifted
  rw [← h l hl, content, hpad, Nat.add_assoc, Nat.add_sub_cancel_left]

/-- Where the code has reached the fence, no marked line moves. -/
theorem Settled.changedLines_of_baseline (h : Settled .baseline n lines) :
    Settled .changedLines n lines := by
  intro l hl
  by_cases hkind : l.kind = .changed
  · have hcode : l.isCode = true := by
      rw [BodyLine.isCode, hkind]
      rfl
    have hle := (le_codeIndent_iff ⟨l, hl, hcode⟩).1 (h.le_codeIndent hl hcode) l hl hcode
    rw [BodyLine.leadingSpaces_of_changed hkind, Nat.le_zero] at hle
    rw [hle]
    exact l.moved_zero
  · exact BodyLine.moved_of_ne_changed hkind n

theorem Settled.changedLines_line (h : Settled .changedLines n lines) (policy : Policy) :
    Settled .changedLines n (lines.map (policy.line n lines)) := by
  cases policy with
  | changedLines => exact settled_changedLines n lines
  | baseline =>
      intro l' hl'
      obtain ⟨l, hl, rfl⟩ := List.mem_map.1 hl'
      exact BodyLine.moved_shifted (h l hl) _ _

end Policy

end FencedDiff
