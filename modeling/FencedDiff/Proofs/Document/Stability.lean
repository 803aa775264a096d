import FencedDiff.Proofs.Document.Outcome

/-!
# A second pass

A pass leaves every body settled, on the same lines and behind the same fences.
A second pass with the same options therefore finds nothing to do. It may run
into its step limit, for the document may have grown, and then passes the
document through; the answer is the same text either way.
-/

namespace FencedDiff

open Bytes

theorem map_indent_placeParts_realign (policy : Policy) (parts : List Part)
    (number start start' : Nat) :
    (placeParts number start' (parts.map (Part.realign policy))).map Block.indent =
      (placeParts number start parts).map Block.indent := by
  have h := congrArg (List.map fun n => n.2.2)
    (map_lines_placeParts_realign policy parts number start start')
  rwa [List.map_map, List.map_map] at h

/-- Where the bodies are settled, a pass changes nothing. -/
theorem IsOutline.format_of_settled {parts : List Part} (h : IsOutline parts) {text : Bytes}
    (hlines : partLines parts = splitLines text) {options : Options}
    (hsettled : ∀ p ∈ parts, p.Settled options.policy)
    (hdeep : tooDeep? options (scanLines text) = none)
    (hlength : text.length ≤ options.limits.maxDocumentBytes.toNat) :
    ∃ r, format options text = .ok ⟨text, r⟩ ∧ r.blocksChanged = 0 ∧ r.linesChanged = 0 := by
  have htouched := h.touchedBlocks_eq_nil hlines hsettled
  rw [format_eq, if_neg (Nat.not_lt.2 hlength), hdeep, formatted, htouched]
  cases scan options text with
  | error e => exact ⟨_, rfl, rfl, rfl⟩
  | ok blocks => exact ⟨_, rfl, rfl, rfl⟩

/-- Formatting is idempotent: a document that was formatted is answered as it is,
and nothing in it is reported as changed. -/
theorem format_idempotent {options : Options} {text : Bytes} {f : Formatted}
    (h : format options text = .ok f)
    (hlength : f.text.length ≤ options.limits.maxDocumentBytes.toNat) :
    ∃ r, format options f.text = .ok ⟨f.text, r⟩ ∧
      r.blocksChanged = 0 ∧ r.linesChanged = 0 := by
  rcases format_eq_ok_cases h with rfl | ⟨hdeep, rfl⟩
  · exact ⟨_, h, rfl, rfl⟩
  · obtain ⟨parts, hparts, hlines⟩ := exists_outline (splitLines text)
    have hcut : IsCut (partLines parts) := hlines ▸ (isCut_splitLines text).1
    rw [hparts.text_formatted hlines] at hlength ⊢
    apply (hparts.realign options.policy).format_of_settled _ _ _ hlength
    · exact (hcut.realignLines options.policy).splitLines_flatten.symm
    · intro p hp
      obtain ⟨q, hq, rfl⟩ := List.mem_map.1 hp
      exact q.settled_realign options.policy
    · rw [hparts.scanLines_eq_placeParts hlines, tooDeep?_eq_none_iff] at hdeep
      rw [hparts.scanLines_realign hcut, tooDeep?_eq_none_iff,
        map_indent_placeParts_realign options.policy parts 0 0 0]
      exact hdeep

/-- A removed line behind an indented fence, with spaces to drop behind its marker. -/
def removedLine : Bytes :=
  space :: ticks ++ tag ++ [newline, minus, space, space, 0x61, newline] ++ ticks ++ [newline]

def removedLineFormatted : Bytes :=
  space :: ticks ++ tag ++ [newline, space, minus, space, 0x61, newline] ++ ticks ++ [newline]

theorem format_idempotent_removedLine :
    format {} removedLine = .ok ⟨removedLineFormatted, ⟨1, 1, 1, false⟩⟩ ∧
      ∃ r, format {} removedLineFormatted = .ok ⟨removedLineFormatted, r⟩ ∧
        r.blocksChanged = 0 ∧ r.linesChanged = 0 := by
  have h : format {} removedLine = .ok ⟨removedLineFormatted, ⟨1, 1, 1, false⟩⟩ := by
    decide
  exact ⟨h, format_idempotent h (by decide)⟩

end FencedDiff
