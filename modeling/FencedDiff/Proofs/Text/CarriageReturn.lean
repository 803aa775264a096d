import FencedDiff.Proofs.Text.Cut
import FencedDiff.Proofs.Text.Ending
import Mathlib.Data.List.Induction

/-!
# Carriage returns before newlines

`crlf` puts a carriage return before each newline of a text, be there others already
or not. The text is cut at the same newlines as before (`splitLines_crlf`), and in a line
the new byte becomes part of the ending, however long the run is that it joins: the
content of a line has no newline and stays as it is (`IsCut.lineContent_crlf_of_mem`).

No two texts become the same (`crlf_injective`). A text that `crlf` made never begins with
a newline, so what stands before the first newline is known byte by byte.
-/

namespace FencedDiff

open Bytes

/-- The text with a carriage return more before each newline. -/
def crlf (text : Bytes) : Bytes :=
  text.flatMap fun b => if b = newline then [carriageReturn, newline] else [b]

@[simp] theorem crlf_nil : crlf [] = [] := rfl

theorem crlf_newline_cons (text : Bytes) :
    crlf (newline :: text) = carriageReturn :: newline :: crlf text := rfl

theorem crlf_cons_of_ne {b : UInt8} (h : b ≠ newline) (text : Bytes) :
    crlf (b :: text) = b :: crlf text := by
  rw [crlf, List.flatMap_cons, if_neg h]
  rfl

@[simp] theorem crlf_append (a b : Bytes) : crlf (a ++ b) = crlf a ++ crlf b :=
  List.flatMap_append

theorem crlf_flatten (lines : List Bytes) : crlf lines.flatten = (lines.map crlf).flatten := by
  induction lines with
  | nil => rfl
  | cons line lines ih =>
      rw [List.flatten_cons, crlf_append, ih, List.map_cons, List.flatten_cons]

theorem crlf_of_not_mem {text : Bytes} (h : newline ∉ text) : crlf text = text := by
  induction text with
  | nil => rfl
  | cons b text ih =>
      rw [List.mem_cons, not_or] at h
      rw [crlf_cons_of_ne (Ne.symm h.1), ih h.2]

theorem length_le_length_crlf (text : Bytes) : text.length ≤ (crlf text).length := by
  induction text with
  | nil => exact Nat.le_refl _
  | cons b text ih =>
      by_cases hb : b = newline
      · rw [hb, crlf_newline_cons]
        exact Nat.succ_le_succ (Nat.le_succ_of_le ih)
      · rw [crlf_cons_of_ne hb]
        exact Nat.succ_le_succ ih

theorem crlf_ne_newline_cons (text rest : Bytes) : crlf text ≠ newline :: rest := by
  cases text with
  | nil => simp
  | cons b text =>
      by_cases hb : b = newline
      · rw [hb, crlf_newline_cons]
        simp [carriageReturn, newline]
      · rw [crlf_cons_of_ne hb]
        intro h
        exact hb (List.cons.inj h).1

theorem crlf_injective : Function.Injective crlf := by
  intro a
  induction a with
  | nil =>
      intro b h
      have hlength := length_le_length_crlf b
      rw [← h] at hlength
      exact (List.length_eq_zero_iff.1 (Nat.le_zero.1 hlength)).symm
  | cons x a ih =>
      intro b h
      cases b with
      | nil =>
          have hlength := length_le_length_crlf (x :: a)
          rw [h] at hlength
          cases hlength
      | cons y b =>
          by_cases hx : x = newline <;> by_cases hy : y = newline
          · subst hx hy
            rw [crlf_newline_cons, crlf_newline_cons, List.cons_inj_right,
              List.cons_inj_right] at h
            rw [ih h]
          · -- the carriage return may be the other text's own, but not the newline
            subst hx
            rw [crlf_newline_cons, crlf_cons_of_ne hy] at h
            exact absurd (List.cons.inj h).2.symm (crlf_ne_newline_cons b _)
          · subst hy
            rw [crlf_newline_cons, crlf_cons_of_ne hx] at h
            exact absurd (List.cons.inj h).2 (crlf_ne_newline_cons a _)
          · rw [crlf_cons_of_ne hx, crlf_cons_of_ne hy] at h
            obtain ⟨rfl, hrest⟩ := List.cons.inj h
            rw [ih hrest]

section Lines

theorem EndsInNewline.crlf {line : Bytes} (h : EndsInNewline line) :
    EndsInNewline (crlf line) := by
  obtain ⟨body, hbody, rfl⟩ := h
  refine ⟨body ++ [carriageReturn], ?_, ?_⟩
  · rw [List.mem_append, not_or]
    exact ⟨hbody, by decide⟩
  · rw [crlf_append, crlf_of_not_mem hbody, crlf_newline_cons, List.append_assoc]
    rfl

theorem IsCut.map_crlf {lines : List Bytes} (h : IsCut lines) : IsCut (lines.map crlf) := by
  induction h with
  | nil => exact .nil
  | last h hne =>
      rw [List.map_singleton, crlf_of_not_mem h]
      exact .last h hne
  | cons h hrest ih => exact .cons h.crlf ih

/-- The lines of the text are the lines that it had, each with its carriage return. -/
theorem splitLines_crlf (text : Bytes) : splitLines (crlf text) = (splitLines text).map crlf := by
  obtain ⟨hcut, hflat⟩ := isCut_splitLines text
  conv => lhs; rw [← hflat]
  rw [crlf_flatten, hcut.map_crlf.splitLines_flatten]

/-- What is cut off as the content does not depend on the bytes that come to an ending. -/
theorem lineContent_crlf (line : Bytes) : lineContent (crlf line) = crlf (lineContent line) := by
  induction line using List.reverseRecOn with
  | nil => rfl
  | append_singleton line b ih =>
      cases hb : isLineEnd b with
      | true =>
          have hending : ∀ c ∈ crlf [b], isLineEnd c = true := by
            by_cases hnewline : b = newline
            · rw [hnewline, crlf_newline_cons]
              simp [isLineEnd]
            · rw [crlf_cons_of_ne hnewline]
              simpa using hb
          rw [crlf_append, lineContent_append_of_forall hending, ih,
            lineContent_append_of_forall (by simpa using hb)]
      | false =>
          have hnewline : b ≠ newline := by
            rintro rfl
            cases hb
          rw [crlf_append, crlf_cons_of_ne hnewline, lineContent_append_cons hb,
            lineContent_append_cons hb, crlf_append, crlf_cons_of_ne hnewline]
          rfl

theorem lineEnding_crlf (line : Bytes) : lineEnding (crlf line) = crlf (lineEnding line) := by
  have hcrlf := lineContent_append_lineEnding (crlf line)
  conv at hcrlf => rhs; rw [← lineContent_append_lineEnding line, crlf_append]
  rw [lineContent_crlf] at hcrlf
  exact List.append_cancel_left hcrlf

theorem IsCut.newline_not_mem_lineContent {lines : List Bytes} (h : IsCut lines) :
    ∀ line ∈ lines, newline ∉ lineContent line := by
  induction h with
  | nil => simp
  | last h hne =>
      rw [List.forall_mem_singleton]
      exact fun hmem => h (mem_of_mem_lineContent hmem)
  | @cons line rest h hrest ih =>
      obtain ⟨body, hbody, rfl⟩ := h
      rw [List.forall_mem_cons, lineContent_append_of_forall (by simp [isLineEnd])]
      exact ⟨fun hmem => hbody (mem_of_mem_lineContent hmem), ih⟩

/-- The lines of a text keep their contents. -/
theorem IsCut.lineContent_crlf_of_mem {lines : List Bytes} (h : IsCut lines) {line : Bytes}
    (hline : line ∈ lines) : lineContent (crlf line) = lineContent line := by
  rw [lineContent_crlf, crlf_of_not_mem (h.newline_not_mem_lineContent line hline)]

end Lines

end FencedDiff
