import FencedDiff.Proofs.Document.Outcome
import FencedDiff.Proofs.Fence.Concatenation

/-!
# A pass over a concatenation

Where a text ends between blocks, a pass over it and what comes behind it is a pass over
each (`format_append`). The blocks are those of the two texts, so the first fence that is
too deep is the one that fails the first of the two passes that fails. The new text is
read off an outline of both; the counts go block by block, for a block and its body are
the same in the concatenation as in the text that they come from.
-/

namespace FencedDiff

open Bytes

/-- The report of two passes taken together. -/
def Report.add (r s : Report) : Report where
  blocksFound := r.blocksFound + s.blocksFound
  blocksChanged := r.blocksChanged + s.blocksChanged
  linesChanged := r.linesChanged + s.linesChanged
  passthrough := r.passthrough || s.passthrough

/-- One formatted document behind another. -/
def Formatted.append (f g : Formatted) : Formatted where
  text := f.text ++ g.text
  report := f.report.add g.report

section Slices

variable {s : Span} {a b : Bytes}

theorem slice_append_of_le (h : s.stop ≤ a.length) : s.slice (a ++ b) = s.slice a := by
  by_cases hstart : s.start ≤ a.length
  · rw [Span.slice, Span.slice, List.drop_append_of_le_length hstart,
      List.take_append_of_le_length]
    rw [List.length_drop, Span.length]
    exact Nat.sub_le_sub_right h _
  · have hlength : s.length = 0 := by
      rw [Span.length]
      omega
    rw [Span.slice, Span.slice, hlength, List.take_zero, List.take_zero]

theorem slice_shift_append (s : Span) (a b : Bytes) :
    (s.shift a.length).slice (a ++ b) = s.slice b := by
  have hlength : (s.shift a.length).length = s.length := Nat.add_sub_add_right ..
  have hdrop : (a ++ b).drop (s.start + a.length) = b.drop s.start := by
    rw [Nat.add_comm, List.drop_append, List.drop_eq_nil_of_le (Nat.le_add_right ..),
      List.nil_append, Nat.add_sub_cancel_left]
  rw [Span.slice, hlength, Span.shift, hdrop, Span.slice]

end Slices

section Blocks

variable (policy : Policy) {a b : Bytes}

/-- The blocks of a text have the same bodies whatever comes behind it. -/
theorem realignedBlocks_append_of_wellPlaced {blocks : List Block}
    (h : WellPlaced a.length blocks) :
    realignedBlocks policy (a ++ b) blocks = realignedBlocks policy a blocks := by
  apply List.map_congr_left
  intro block hblock
  have hwithin := h.within block hblock
  rw [slice_append_of_le (Nat.le_trans hwithin.stop_le hwithin.le_length)]

theorem realignedBlocks_shift (lines : Nat) (a b : Bytes) (blocks : List Block) :
    realignedBlocks policy (a ++ b) (blocks.map (Block.shift lines a.length)) =
      (realignedBlocks policy b blocks).map (Prod.map (Block.shift lines a.length) id) := by
  rw [realignedBlocks, realignedBlocks, List.map_map, List.map_map]
  apply List.map_congr_left
  intro block _
  simp only [Function.comp_apply, Block.shift, slice_shift_append, Prod.map_apply, id_eq]

theorem changedLinesIn_append (rs ss : List (Block × Realigned)) :
    changedLinesIn (rs ++ ss) = changedLinesIn rs + changedLinesIn ss := by
  induction rs with
  | nil => rw [List.nil_append, changedLinesIn, Nat.zero_add]
  | cons r rs ih => rw [List.cons_append, changedLinesIn, changedLinesIn, ih, Nat.add_assoc]

theorem changedLinesIn_map (move : Block → Block) (rs : List (Block × Realigned)) :
    changedLinesIn (rs.map (Prod.map move id)) = changedLinesIn rs := by
  induction rs with
  | nil => rfl
  | cons r rs ih => rw [List.map_cons, changedLinesIn, changedLinesIn, ih, Prod.map_snd, id]

variable (h : EndsBetweenBlocks a)
include h

/-- The bodies that change are those that change in the two texts. -/
theorem EndsBetweenBlocks.touchedBlocks_append (b : Bytes) :
    touchedBlocks policy (a ++ b) (scanLines (a ++ b)) =
      touchedBlocks policy a (scanLines a) ++
        (touchedBlocks policy b (scanLines b)).map
          (Prod.map (Block.shift (splitLines a).length a.length) id) := by
  rw [h.scanLines_append, touchedBlocks, realignedBlocks, List.map_append, ← realignedBlocks,
    ← realignedBlocks, realignedBlocks_append_of_wellPlaced policy (wellPlaced_scanLines a),
    realignedBlocks_shift, List.filter_append, List.filter_map]
  rfl

theorem EndsBetweenBlocks.text_formatted_append (b : Bytes) :
    (formatted policy (a ++ b) (scanLines (a ++ b))).text =
      (formatted policy a (scanLines a)).text ++ (formatted policy b (scanLines b)).text := by
  obtain ⟨p, hp, hplines⟩ := exists_outline (splitLines a)
  obtain ⟨q, hq, hqlines⟩ := exists_outline (splitLines b)
  obtain ⟨hpq, hlines⟩ := h.isOutline_append hp hplines hq hqlines
  rw [hpq.text_formatted hlines, hp.text_formatted hplines, hq.text_formatted hqlines,
    ← List.flatten_append, realignLines, List.map_append, partLines_append]
  rfl

theorem EndsBetweenBlocks.formatted_append (b : Bytes) :
    formatted policy (a ++ b) (scanLines (a ++ b)) =
      (formatted policy a (scanLines a)).append (formatted policy b (scanLines b)) := by
  have htext := h.text_formatted_append policy b
  have htouched := h.touchedBlocks_append policy b
  have hfound : (scanLines (a ++ b)).length = (scanLines a).length + (scanLines b).length := by
    rw [h.scanLines_append, List.length_append, List.length_map]
  have hblocks : (touchedBlocks policy (a ++ b) (scanLines (a ++ b))).length =
      (touchedBlocks policy a (scanLines a)).length +
        (touchedBlocks policy b (scanLines b)).length := by
    rw [htouched, List.length_append, List.length_map]
  have hchanged : changedLinesIn (touchedBlocks policy (a ++ b) (scanLines (a ++ b))) =
      changedLinesIn (touchedBlocks policy a (scanLines a)) +
        changedLinesIn (touchedBlocks policy b (scanLines b)) := by
    rw [htouched, changedLinesIn_append, changedLinesIn_map]
  rw [Formatted.append, ← htext]
  simp only [formatted, Report.add, hfound, hblocks, hchanged, Bool.or_false]

/-- The first fence that is too deep is one of the first text, or else of the second. -/
theorem EndsBetweenBlocks.tooDeep?_append (options : Options) (b : Bytes) :
    tooDeep? options (scanLines (a ++ b)) =
      (tooDeep? options (scanLines a)).or ((tooDeep? options (scanLines b)).map
        (Block.shift (splitLines a).length a.length)) := by
  rw [h.scanLines_append, tooDeep?, List.find?_append, List.find?_map]
  rfl

end Blocks

theorem format_eq_of_lines {options : Options} (hscanner : options.scanner = .lines)
    {text : Bytes} (hlength : text.length ≤ options.limits.maxDocumentBytes.toNat) :
    format options text =
      match tooDeep? options (scanLines text) with
      | some b => .error (.indentTooLarge ⟨b.indent, options.limits.maxFenceIndent.toNat⟩)
      | none => .ok (formatted options.policy text (scanLines text)) := by
  have hscan : scan options text = .ok (scanLines text) := by
    rw [scan, hscanner]
  have hformat := format_eq options text
  rw [if_neg (Nat.not_lt.2 hlength), hscan] at hformat
  exact hformat

/-- Where a text ends between blocks, formatting goes through concatenation. The blocks are
those of the text and, further down, those of the text behind it; the pass answers the two
formatted texts with their counts added up, or the first error of the two passes. -/
theorem format_append {options : Options} (hscanner : options.scanner = .lines) {a b : Bytes}
    (ha : EndsBetweenBlocks a)
    (hlength : a.length + b.length ≤ options.limits.maxDocumentBytes.toNat) :
    scanLines (a ++ b) =
        scanLines a ++ (scanLines b).map (Block.shift (splitLines a).length a.length) ∧
      format options (a ++ b) = do
        let f ← format options a
        let g ← format options b
        return f.append g := by
  refine ⟨ha.scanLines_append b, ?_⟩
  rw [format_eq_of_lines hscanner (by rwa [List.length_append]),
    format_eq_of_lines hscanner (Nat.le_trans (Nat.le_add_right ..) hlength),
    format_eq_of_lines hscanner (Nat.le_trans (Nat.le_add_left ..) hlength),
    ha.tooDeep?_append, ha.formatted_append]
  cases tooDeep? options (scanLines a) with
  | some block => rfl
  | none =>
      cases tooDeep? options (scanLines b) with
      | some block => rfl
      | none => rfl

/-- A block with a line to move, and a line behind it. -/
def blockThenLine : Bytes :=
  space :: ticks ++ tag ++ [newline, minus, 0x61, newline] ++ ticks ++ [newline, 0x61, newline]

/-- A deeper block with two lines to move, in a text that does not end in a newline. -/
def deeperBlock : Bytes :=
  spaces 2 ++ ticks ++ tag ++ [newline, minus, 0x61, newline, plus, 0x62, newline] ++ ticks

theorem format_append_deeperBlock :
    EndsBetweenBlocks blockThenLine ∧
      scanLines (blockThenLine ++ deeperBlock) = scanLines blockThenLine ++
        (scanLines deeperBlock).map (Block.shift 4 blockThenLine.length) ∧
      format {} (blockThenLine ++ deeperBlock) =
        .ok ⟨space :: ticks ++ tag ++ [newline, space, minus, 0x61, newline] ++ ticks ++
          [newline, 0x61, newline] ++ spaces 2 ++ ticks ++ tag ++ [newline, space, space, minus, 0x61,
            newline, space, space, plus, 0x62, newline] ++ ticks, ⟨2, 2, 3, false⟩⟩ := by
  have hends : EndsBetweenBlocks blockThenLine := by decide
  have hlength : blockThenLine.length + deeperBlock.length ≤
      ({} : Options).limits.maxDocumentBytes.toNat := by decide
  obtain ⟨hscan, hformat⟩ := format_append rfl hends hlength
  exact ⟨hends, hscan, hformat.trans (by decide +kernel)⟩

end FencedDiff
