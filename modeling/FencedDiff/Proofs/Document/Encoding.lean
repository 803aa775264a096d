import FencedDiff.Proofs.Document.Frame
import FencedDiff.Proofs.Text.Encoding

/-!
# A formatted text is a text

Respacing a line adds spaces and drops spaces. A space is a character of its own, so the
new line is UTF-8 exactly if the old one is, and so is the whole document
(`isText_of_format`).
-/

namespace FencedDiff

open Bytes Utf8

variable {old new : Bytes}

theorem Respaces.isText_iff (h : Respaces old new) : IsText new ↔ IsText old := by
  cases h with
  | indent n content => exact isText_spaces_append_iff n
  | @marker b hb n k code hk =>
      have hascii : b < 0x80 := by
        rcases hb with rfl | rfl <;> decide
      rw [isText_spaces_append_iff, isText_cons_iff hascii, isText_cons_iff hascii]
      conv_rhs => rw [← spaces_append_drop_of_le hk, isText_spaces_append_iff]

theorem isText_lineContent_iff {line : Bytes} : IsText (lineContent line) ↔ IsText line := by
  have hascii : ∀ b ∈ lineEnding line, b < 0x80 := by
    intro b hb
    have hend := isLineEnd_of_mem_lineEnding hb
    rw [isLineEnd, Bool.or_eq_true, beq_iff_eq, beq_iff_eq] at hend
    rcases hend with rfl | rfl <;> decide
  conv_rhs => rw [← lineContent_append_lineEnding line, isText_append_iff_of_ascii hascii]

theorem RespacesLine.isText_iff (h : RespacesLine old new) : IsText new ↔ IsText old := by
  rw [← isText_lineContent_iff, h.content.isText_iff, isText_lineContent_iff]

theorem isText_of_format {options : Options} {text : Bytes} {f : Formatted}
    (h : format options text = .ok f) (htext : IsText text) : IsText f.text := by
  rw [← flatten_splitLines text, (isCut_splitLines text).1.isText_flatten_iff] at htext
  rw [← flatten_splitLines f.text, (isCut_splitLines f.text).1.isText_flatten_iff]
  intro line hline
  obtain ⟨i, hi, rfl⟩ := List.getElem_of_mem hline
  have hrespaces := respaces_of_format h
  have hi' : i < (splitLines text).length := hrespaces.length_eq ▸ hi
  exact (hrespaces.get hi' hi).isText_iff.2 (htext _ (List.getElem_mem hi'))

end FencedDiff
