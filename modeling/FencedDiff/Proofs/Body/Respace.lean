import FencedDiff.Body.Line
import FencedDiff.Proofs.Fence.Grammar
import FencedDiff.Proofs.Text.Cut
import Mathlib.Data.List.Forall2

/-!
# Respacing

A policy does two things to the content of a line: it puts spaces in front, and
it drops some of the spaces behind the marker of a removed or added line.
`Respaces` allows exactly these, and `RespacesLine` keeps the ending as well.

What the rest of a document relies on follows from the relation, whichever
policy was at work: no other byte is lost, lines stay lines
(`IsCut.respaced`), and no closing fence comes up in a body.
-/

namespace FencedDiff

open Bytes

/-- The second content is the first with other spaces in front, or behind its
marker. -/
inductive Respaces : Bytes → Bytes → Prop
  | indent (n : Nat) (content : Bytes) : Respaces content (spaces n ++ content)
  | marker {b : UInt8} (hb : b = minus ∨ b = plus) (n : Nat) {k : Nat} {code : Bytes}
      (hk : k ≤ leadingSpaces code) : Respaces (b :: code) (spaces n ++ b :: code.drop k)

/-- The second line is the first with its content respaced. -/
structure RespacesLine (old new : Bytes) : Prop where
  content : Respaces (lineContent old) (lineContent new)
  ending : lineEnding new = lineEnding old

theorem filter_spaces (n : Nat) : (spaces n).filter (· != space) = [] := by
  simp [spaces]

theorem lineContent_spaces_append (n : Nat) (s : Bytes) :
    lineContent (spaces n ++ s) = spaces n ++ lineContent s := by
  induction n with
  | zero => rfl
  | succ n ih => rw [spaces_succ, List.cons_append, lineContent_cons (by decide), ih,
      List.cons_append]

theorem isLineEnd_of_marker {b : UInt8} (hb : b = minus ∨ b = plus) :
    isLineEnd b = false := by
  rcases hb with rfl | rfl <;> rfl

theorem signatureOfContent_spaces_append_eq_closing_iff {n : Nat} {s : Bytes} :
    signatureOfContent (spaces n ++ s) = some .closing ↔
      signatureOfContent s = some .closing := by
  have hdrop : (spaces n ++ s).drop (n + leadingSpaces s) = s.drop (leadingSpaces s) := by
    rw [← List.drop_drop, drop_spaces_append]
  simp only [signatureOfContent, leadingSpaces_spaces_append, hdrop]
  split
  · simp
  · rfl

theorem signatureOfContent_of_marker {b : UInt8} (hb : b = minus ∨ b = plus) (s : Bytes) :
    signatureOfContent (b :: s) = none := by
  have hspace : leadingSpaces (b :: s) = 0 := by
    apply leadingSpaces_cons_of_ne
    rcases hb with rfl | rfl <;> decide
  have htick : ¬ (0x60 : UInt8) = b := by
    rcases hb with rfl | rfl <;> decide
  simp [signatureOfContent, hspace, ticks, htick]

namespace Respaces

variable {old new : Bytes}

theorem refl (content : Bytes) : Respaces content content := .indent 0 content

theorem filter_eq (h : Respaces old new) :
    new.filter (· != space) = old.filter (· != space) := by
  cases h with
  | indent n content => rw [List.filter_append, filter_spaces, List.nil_append]
  | @marker b hb n k code hk =>
      have hcode : (code.drop k).filter (· != space) = code.filter (· != space) := by
        conv_rhs => rw [← spaces_append_drop_of_le hk, List.filter_append, filter_spaces]
        rfl
      rw [List.filter_append, filter_spaces, List.nil_append, List.filter_cons,
        List.filter_cons, hcode]

/-- Bytes other than spaces neither come nor go. -/
theorem mem_iff (h : Respaces old new) {b : UInt8} (hb : b ≠ space) :
    b ∈ new ↔ b ∈ old := by
  have hmem : ∀ s : Bytes, b ∈ s ↔ b ∈ s.filter (· != space) := by
    intro s
    simp [hb]
  rw [hmem new, hmem old, h.filter_eq]

theorem ne_nil (h : Respaces old new) (hold : old ≠ []) : new ≠ [] := by
  cases h with
  | indent n content => simp [hold]
  | marker hb n hk => simp

theorem lineContent_eq (h : Respaces old new) (hold : lineContent old = old) :
    lineContent new = new := by
  cases h with
  | indent n content => rw [lineContent_spaces_append, hold]
  | @marker b hb n k code hk =>
      rw [lineContent_cons (isLineEnd_of_marker hb)] at hold
      have hcode : spaces k ++ lineContent (code.drop k) = spaces k ++ code.drop k := by
        rw [← lineContent_spaces_append, spaces_append_drop_of_le hk, List.cons.inj hold |>.2]
      rw [lineContent_spaces_append, lineContent_cons (isLineEnd_of_marker hb),
        List.append_cancel_left hcode]

/-- A respaced line closes a block only if it did so before. -/
theorem signatureOfContent_ne_closing (h : Respaces old new)
    (hold : signatureOfContent old ≠ some .closing) :
    signatureOfContent new ≠ some .closing := by
  cases h with
  | indent n content => rwa [Ne, signatureOfContent_spaces_append_eq_closing_iff]
  | @marker b hb n k code hk =>
      rw [Ne, signatureOfContent_spaces_append_eq_closing_iff, signatureOfContent_of_marker hb]
      simp

end Respaces

namespace RespacesLine

variable {line old new : Bytes}

theorem refl (line : Bytes) : RespacesLine line line := ⟨.refl _, rfl⟩

/-- A new content in front of the old ending makes a respaced line. -/
theorem of_content {content : Bytes} (h : Respaces (lineContent line) content) :
    RespacesLine line (content ++ lineEnding line) := by
  have hcontent := h.lineContent_eq (lineContent_lineContent line)
  constructor
  · rwa [lineContent_append_ending hcontent fun _ => isLineEnd_of_mem_lineEnding]
  · exact lineEnding_append_ending hcontent fun _ => isLineEnd_of_mem_lineEnding

theorem filter_eq (h : RespacesLine old new) :
    new.filter (· != space) = old.filter (· != space) := by
  rw [← lineContent_append_lineEnding new, ← lineContent_append_lineEnding old,
    List.filter_append, List.filter_append, h.content.filter_eq, h.ending]

theorem newline_mem_iff (h : RespacesLine old new) : newline ∈ new ↔ newline ∈ old := by
  rw [← lineContent_append_lineEnding new, ← lineContent_append_lineEnding old,
    List.mem_append, List.mem_append, h.content.mem_iff (by decide), h.ending]

theorem ne_nil (h : RespacesLine old new) (hold : old ≠ []) : new ≠ [] := by
  intro hnew
  apply hold
  have hending := h.ending
  have hcontent : lineContent old = [] := by
    by_contra hne
    exact h.content.ne_nil hne (by rw [hnew]; rfl)
  rw [hnew] at hending
  rw [← lineContent_append_lineEnding old, hcontent, ← hending]
  rfl

theorem endsInNewline (h : RespacesLine old new) (hold : EndsInNewline old) :
    EndsInNewline new := by
  obtain ⟨body, hbody, rfl⟩ := hold
  have hending : lineEnding new = lineEnding body ++ [newline] := by
    rw [h.ending, lineEnding_append_singleton (by decide)]
  have hcontent : newline ∉ lineContent new := by
    rw [h.content.mem_iff (by decide), lineContent_append_of_forall (by simp [isLineEnd])]
    exact fun hmem => hbody (mem_of_mem_lineContent hmem)
  refine ⟨lineContent new ++ lineEnding body, ?_, ?_⟩
  · rw [List.mem_append, not_or]
    exact ⟨hcontent, fun hmem => hbody (mem_of_mem_lineEnding hmem)⟩
  · rw [List.append_assoc, ← hending, lineContent_append_lineEnding]

theorem signature_ne_closing (h : RespacesLine old new) (hold : signature old ≠ some .closing) :
    signature new ≠ some .closing :=
  h.content.signatureOfContent_ne_closing hold

end RespacesLine

section Lines

variable {lines lines' : List Bytes}

/-- Respaced lines are read back as they are. -/
theorem IsCut.respaced (h : IsCut lines) (hr : List.Forall₂ RespacesLine lines lines') :
    IsCut lines' := by
  induction hr with
  | nil => exact .nil
  | cons hline hlines ih =>
      cases h with
      | last h hne =>
          cases hlines
          exact .last (fun hmem => h (hline.newline_mem_iff.1 hmem)) (hline.ne_nil hne)
      | cons h hrest => exact .cons (hline.endsInNewline h) (ih hrest)

theorem filter_flatten_of_respaced (hr : List.Forall₂ RespacesLine lines lines') :
    lines'.flatten.filter (· != space) = lines.flatten.filter (· != space) := by
  induction hr with
  | nil => rfl
  | cons hline hlines ih =>
      rw [List.flatten_cons, List.flatten_cons, List.filter_append, List.filter_append,
        hline.filter_eq, ih]

theorem map_lineEnding_of_respaced (hr : List.Forall₂ RespacesLine lines lines') :
    lines'.map lineEnding = lines.map lineEnding := by
  induction hr with
  | nil => rfl
  | cons hline hlines ih => rw [List.map_cons, List.map_cons, hline.ending, ih]

theorem signature_ne_closing_of_respaced (hr : List.Forall₂ RespacesLine lines lines')
    (h : ∀ l ∈ lines, signature l ≠ some .closing) :
    ∀ l ∈ lines', signature l ≠ some .closing := by
  induction hr with
  | nil => simp
  | cons hline hlines ih =>
      rw [List.forall_mem_cons] at h ⊢
      exact ⟨hline.signature_ne_closing h.1, ih h.2⟩

end Lines

end FencedDiff
