import FencedDiff.Text.Line
import Mathlib.Data.List.TakeWhile

/-!
# Line endings

The ending of a line is its last run of carriage returns and newlines. What is
put before an ending keeps it, as long as the new content does not itself end
in a byte of a line ending (`lineContent_append_ending`).
-/

namespace FencedDiff

open Bytes

theorem isLineEnd_of_mem_lineEnding {line : Bytes} {b : UInt8}
    (h : b ∈ lineEnding line) : isLineEnd b = true := by
  rw [lineEnding, List.mem_reverse] at h
  exact List.mem_takeWhile_imp h

theorem mem_of_mem_lineContent {line : Bytes} {b : UInt8} (h : b ∈ lineContent line) :
    b ∈ line := by
  rw [← lineContent_append_lineEnding line]
  exact List.mem_append_left _ h

theorem mem_of_mem_lineEnding {line : Bytes} {b : UInt8} (h : b ∈ lineEnding line) :
    b ∈ line := by
  rw [← lineContent_append_lineEnding line]
  exact List.mem_append_right _ h

/-- Bytes of a line ending are not part of the content. -/
theorem lineContent_append_of_forall {s e : Bytes}
    (h : ∀ b ∈ e, isLineEnd b = true) : lineContent (s ++ e) = lineContent s := by
  rw [lineContent, List.reverse_append, List.dropWhile_append_of_pos]
  · rfl
  · simpa using h

/-- Everything up to a byte that ends no line is part of the content. -/
theorem lineContent_append_cons {b : UInt8} (h : isLineEnd b = false)
    (s t : Bytes) : lineContent (s ++ b :: t) = s ++ b :: lineContent t := by
  rw [lineContent, List.reverse_append, List.reverse_cons, List.append_assoc,
    List.dropWhile_append]
  split
  · rename_i ht
    have ht' : lineContent t = [] := by simpa [lineContent] using ht
    simp [ht', h]
  · simp [lineContent]

theorem lineContent_cons {b : UInt8} (h : isLineEnd b = false) (t : Bytes) :
    lineContent (b :: t) = b :: lineContent t := by
  simpa using lineContent_append_cons h [] t

theorem lineContent_of_forall_not {s : Bytes}
    (h : ∀ b ∈ s, isLineEnd b = false) : lineContent s = s := by
  induction s with
  | nil => rfl
  | cons b s ih =>
      rw [List.forall_mem_cons] at h
      rw [lineContent_cons h.1, ih h.2]

@[simp] theorem lineContent_lineContent (line : Bytes) :
    lineContent (lineContent line) = lineContent line := by
  have h := lineContent_append_of_forall (s := lineContent line)
    (e := lineEnding line) fun _ => isLineEnd_of_mem_lineEnding
  rw [lineContent_append_lineEnding] at h
  exact h.symm

theorem lineContent_append_ending {s e : Bytes} (hs : lineContent s = s)
    (he : ∀ b ∈ e, isLineEnd b = true) : lineContent (s ++ e) = s := by
  rw [lineContent_append_of_forall he, hs]

theorem lineEnding_append_ending {s e : Bytes} (hs : lineContent s = s)
    (he : ∀ b ∈ e, isLineEnd b = true) : lineEnding (s ++ e) = e := by
  have h := lineContent_append_lineEnding (s ++ e)
  rw [lineContent_append_ending hs he] at h
  exact List.append_cancel_left h

/-- One more byte of a line ending makes the ending longer. -/
theorem lineEnding_append_singleton {b : UInt8} (h : isLineEnd b = true)
    (s : Bytes) : lineEnding (s ++ [b]) = lineEnding s ++ [b] := by
  simp [lineEnding, h]

end FencedDiff
