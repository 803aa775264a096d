import FencedDiff.Fence.Backtracking
import FencedDiff.Proofs.Text.Cut

/-!
# Counting steps

The first half moves a cursor over bytes that are known, in particular over a
whole line.

`Takes f steps n a` then says of a computation under a step limit what it does
under every limit at once: after `steps` steps it takes `n` more and answers `a`,
and it fails when the limit does not grant them. The number `n` does not depend
on the limit, so runs under two limits agree until one of them stops. Such
computations compose (`Takes.bind`), which leaves the proofs about the scanner
with the answers and their costs.
-/

namespace FencedDiff

open Bytes

namespace Cursor

theorem skip_skip (c : Cursor) (m n : Nat) : (c.skip m).skip n = c.skip (m + n) := by
  induction m generalizing c with
  | zero => rw [skip_zero, Nat.zero_add]
  | succ m ih => rw [Nat.succ_add, skip, skip, ih]

theorem rest_skip_append {c : Cursor} {a r : Bytes} (h : c.rest = a ++ r) :
    (c.skip a.length).rest = r := by
  rw [rest_skip, h, List.drop_left]

theorem atEnd_of_rest {c : Cursor} {s : Bytes} (h : c.rest = s) : c.atEnd = s.isEmpty := by
  rw [atEnd, h]

theorem atEnd_before_line {c : Cursor} {line : Bytes} {lines : List Bytes}
    (h : c.rest = (line :: lines).flatten) (hne : line ≠ []) : c.atEnd = false := by
  rw [atEnd_of_rest h, List.flatten_cons]
  simp [hne]

theorem startsWith_iff {c : Cursor} {pattern : Bytes} :
    c.startsWith pattern = true ↔ pattern <+: c.rest := List.isPrefixOf_iff_prefix

theorem pos_skip_append {c : Cursor} {a r : Bytes} (h : c.rest = a ++ r) :
    (c.skip a.length).pos = c.pos + a.length := by
  rw [pos_skip c (by simp [h])]

theorem line_skip_append {c : Cursor} {a r : Bytes} (h : c.rest = a ++ r) :
    (c.skip a.length).line = c.line + a.count newline := by
  induction a generalizing c with
  | nil => rfl
  | cons b a ih =>
      have hrest : c.bump.rest = a ++ r := by rw [rest_bump, h]; rfl
      rw [List.length_cons, skip, ih hrest, bump, h, List.count_cons]
      by_cases hb : b = newline
      · simp [hb]
        omega
      · simp [hb]

/-- Whether a line begins hangs on the byte skipped last. -/
theorem atLineStart_skip_append {c : Cursor} {a r : Bytes} (h : c.rest = a ++ r)
    (hne : a ≠ []) : (c.skip a.length).atLineStart = (a.getLast? == some newline) := by
  induction a generalizing c with
  | nil => exact absurd rfl hne
  | cons b a ih =>
      have hrest : c.bump.rest = a ++ r := by rw [rest_bump, h]; rfl
      rw [List.length_cons, skip]
      cases a with
      | nil => simp [bump, h]
      | cons b' a =>
          rw [ih hrest (by simp), List.getLast?_cons_cons]

/-- Behind a byte that is no newline, the line goes on. -/
theorem atLineStart_skip_one {c : Cursor} {b : UInt8} {r : Bytes} (h : c.rest = b :: r)
    (hb : newline ≠ b) : (c.skip 1).atLineStart = false := by
  have hskip := atLineStart_skip_append (a := [b]) h (by simp)
  simpa [beq_false_of_ne hb.symm] using hskip

/-- The cursor stands before the given lines of a document. Behind the last of
them nothing is asked of its line, for a text may end without a newline. -/
structure Before (c : Cursor) (number start : Nat) (lines : List Bytes) : Prop where
  rest : c.rest = lines.flatten
  pos : c.pos = start
  line : lines ≠ [] → c.line = number
  atLineStart : lines ≠ [] → c.atLineStart = true

theorem Before.skip_line {c : Cursor} {number start : Nat} {line : Bytes}
    {lines : List Bytes} (h : c.Before number start (line :: lines))
    (hcut : IsCut (line :: lines)) :
    (c.skip line.length).Before (number + 1) (start + line.length) lines := by
  have hrest : c.rest = line ++ lines.flatten := h.rest
  refine ⟨rest_skip_append hrest, ?_, ?_, ?_⟩
  · rw [pos_skip_append hrest, h.pos]
  · intro hne
    obtain ⟨next, rest, rfl⟩ := List.exists_cons_of_ne_nil hne
    rw [line_skip_append hrest, hcut.endsInNewline_head.count_newline, h.line (by simp)]
  · intro hne
    obtain ⟨next, rest, rfl⟩ := List.exists_cons_of_ne_nil hne
    have hend := hcut.endsInNewline_head
    rw [atLineStart_skip_append hrest hend.ne_nil, hend.getLast?]
    rfl

theorem Before.skip_lines {c : Cursor} {number start : Nat} {before after : List Bytes}
    (h : c.Before number start (before ++ after)) (hcut : IsCut (before ++ after)) :
    (c.skip before.flatten.length).Before (number + before.length)
      (start + before.flatten.length) after := by
  induction before generalizing c number start with
  | nil => exact h
  | cons line before ih =>
      have hnext := ih (h.skip_line hcut) hcut.tail
      rw [skip_skip] at hnext
      simpa [Nat.add_assoc, Nat.add_comm 1] using hnext

end Cursor

namespace Backtracking

/-- The answer `a` after `n` more steps, if the limit grants them. -/
def charge {α : Type} (limit steps n : Nat) (a : α) : Except LimitExceeded α :=
  if steps + n ≤ limit then .ok a else .error ⟨limit + 1, limit⟩

/-- After `steps` steps the computation takes `n` more and answers `a`. -/
def Takes {α : Type} (f : Nat → Except LimitExceeded α) (steps n : Nat) (a : α) : Prop :=
  ∀ limit, steps ≤ limit → f limit = charge limit steps n a

namespace Takes

variable {α β : Type} {f : Nat → Except LimitExceeded α} {steps m n : Nat} {a : α} {b : β}

theorem pure (steps : Nat) (a : α) : Takes (fun _ => Pure.pure a) steps 0 a := by
  intro limit h
  rw [charge, if_pos (by omega)]
  rfl

theorem bind {g : Nat → α → Except LimitExceeded β} (hf : Takes f steps m a)
    (hg : Takes (fun limit => g limit a) (steps + m) n b) :
    Takes (fun limit => f limit >>= g limit) steps (m + n) b := by
  intro limit h
  dsimp only
  rw [hf limit h, charge]
  split
  · rename_i hm
    have hgl := hg limit hm
    rw [charge, Nat.add_assoc] at hgl
    exact hgl
  · rw [charge, if_neg (by omega)]
    rfl

theorem of_eq {g : Nat → Except LimitExceeded α} (h : ∀ limit, f limit = g limit)
    (hg : Takes g steps n a) : Takes f steps n a :=
  fun limit hsteps => (h limit).trans (hg limit hsteps)

end Takes

def Progress.after (p : Progress) (n : Nat) : Progress := ⟨p.cursor.skip n, p.steps + n⟩

/-- A progress with `n` more steps charged, at the same place. -/
def Progress.spend (p : Progress) (n : Nat) : Progress := ⟨p.cursor, p.steps + n⟩

@[simp] theorem Progress.cursor_after (p : Progress) (n : Nat) :
    (p.after n).cursor = p.cursor.skip n := rfl

@[simp] theorem Progress.steps_after (p : Progress) (n : Nat) :
    (p.after n).steps = p.steps + n := rfl

@[simp] theorem Progress.cursor_spend (p : Progress) (n : Nat) :
    (p.spend n).cursor = p.cursor := rfl

@[simp] theorem Progress.steps_spend (p : Progress) (n : Nat) :
    (p.spend n).steps = p.steps + n := rfl

theorem Progress.after_after (p : Progress) (m n : Nat) :
    (p.after m).after n = p.after (m + n) := by
  rw [after, after, after, Cursor.skip_skip, Nat.add_assoc]

theorem takes_advance (p : Progress) (n : Nat) :
    Takes (fun limit => p.advance limit n) p.steps n (p.after n) := fun _ _ => rfl

end Backtracking

end FencedDiff
