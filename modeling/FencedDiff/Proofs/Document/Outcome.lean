import FencedDiff.Document.Format
import FencedDiff.Proofs.Document.Parts
import FencedDiff.Proofs.Document.Splice
import FencedDiff.Proofs.Fence.Agreement

/-!
# What a pass answers

A pass over blocks that are well placed fails on the first fence that is too deep
and otherwise answers `formatted`: the text with the bodies spliced in that
changed, and the counts of what changed (`formatBlocks_eq`).

Splicing counts in the old document. Along an outline the new document is the
concatenation of the realigned parts all the same, whichever of the unchanged
bodies are spliced in as well (`spliceFrom_placeParts`).
-/

namespace FencedDiff

open Bytes

/-- The blocks of a text, each with its realigned body. -/
def realignedBlocks (policy : Policy) (text : Bytes) (blocks : List Block) :
    List (Block × Realigned) :=
  blocks.map fun b => (b, policy.realign b.indent (b.body.slice text))

def editsOf (realigned : List (Block × Realigned)) : List Edit :=
  realigned.map fun r => ⟨r.1, r.2.text⟩

/-- The blocks of a text whose bodies change. -/
def touchedBlocks (policy : Policy) (text : Bytes) (blocks : List Block) :
    List (Block × Realigned) :=
  (realignedBlocks policy text blocks).filter fun r => 0 < r.2.changedLines

/-- A text with the bodies of blocks realigned. -/
def formatted (policy : Policy) (text : Bytes) (blocks : List Block) : Formatted where
  text := spliceFrom 0 text (editsOf (touchedBlocks policy text blocks))
  report :=
    { blocksFound := blocks.length
      blocksChanged := (touchedBlocks policy text blocks).length
      linesChanged := changedLinesIn (touchedBlocks policy text blocks) }

/-- The first block that is indented too deep for the options. -/
def tooDeep? (options : Options) (blocks : List Block) : Option Block :=
  blocks.find? fun b => options.limits.maxFenceIndent.toNat < b.indent

theorem tooDeep?_cons (options : Options) (b : Block) (blocks : List Block) :
    tooDeep? options (b :: blocks) =
      if options.limits.maxFenceIndent.toNat < b.indent then some b
      else tooDeep? options blocks := by
  rw [tooDeep?, List.find?_cons]
  by_cases h : options.limits.maxFenceIndent.toNat < b.indent
  · rw [if_pos h, decide_eq_true h]
  · rw [if_neg h, decide_eq_false h, tooDeep?]

theorem tooDeep?_eq_none_iff {options : Options} {blocks : List Block} :
    tooDeep? options blocks = none ↔
      ∀ n ∈ blocks.map Block.indent, n ≤ options.limits.maxFenceIndent.toNat := by
  simp [tooDeep?]

theorem realignBlocks_eq (options : Options) (text : Bytes) (blocks : List Block) :
    realignBlocks options text.toArray blocks =
      match tooDeep? options blocks with
      | some b => .error ⟨b.indent, options.limits.maxFenceIndent.toNat⟩
      | none => .ok (realignedBlocks options.policy text blocks) := by
  induction blocks with
  | nil => rfl
  | cons b blocks ih =>
      rw [realignBlocks, ih, realignBody, Span.sliceArray_toArray, tooDeep?_cons]
      by_cases hdeep : options.limits.maxFenceIndent.toNat < b.indent
      · simp only [hdeep, if_true]
        rfl
      · simp only [hdeep, if_false]
        cases tooDeep? options blocks with
        | some b => rfl
        | none => rfl

theorem map_block_editsOf_realignedBlocks (policy : Policy) (text : Bytes)
    (blocks : List Block) :
    (editsOf (realignedBlocks policy text blocks)).map Edit.block = blocks := by
  rw [editsOf, realignedBlocks, List.map_map, List.map_map]
  exact List.map_id blocks

theorem map_block_editsOf_touchedBlocks_sublist (policy : Policy) (text : Bytes)
    (blocks : List Block) :
    ((editsOf (touchedBlocks policy text blocks)).map Edit.block).Sublist blocks := by
  conv_rhs => rw [← map_block_editsOf_realignedBlocks policy text blocks]
  exact (List.filter_sublist.map _).map _

/-- Where no body changes, splicing in those that do gives the text as it is. -/
theorem text_formatted_of_touchedBlocks_eq_nil {policy : Policy} {text : Bytes}
    {blocks : List Block} (h : touchedBlocks policy text blocks = []) :
    (formatted policy text blocks).text = text := by
  rw [formatted, h]
  rfl

/-- A pass over well placed blocks fails on fences that are too deep only. -/
theorem formatBlocks_eq (options : Options) {text : Bytes} {blocks : List Block}
    (h : WellPlaced text.length blocks) :
    formatBlocks options text blocks =
      match tooDeep? options blocks with
      | some b => .error (.indentTooLarge ⟨b.indent, options.limits.maxFenceIndent.toNat⟩)
      | none => .ok (formatted options.policy text blocks) := by
  have hsplice := splice_of_wellPlaced (h.sublist
    (map_block_editsOf_touchedBlocks_sublist options.policy text blocks))
  rw [formatBlocks, checkPlacement_eq_ok_iff.2 h, realignBlocks_eq]
  cases blocks with
  | nil => rfl
  | cons first rest =>
      cases htoo : tooDeep? options (first :: rest) with
      | some b => rfl
      | none =>
          change (if (touchedBlocks options.policy text (first :: rest)).isEmpty then
              pure (Formatted.mk text (formatted options.policy text (first :: rest)).report)
            else
              (splice text (editsOf (touchedBlocks options.policy text (first :: rest)))).mapError _
                >>= _) = _
          split
          · rename_i hnone
            have htext := text_formatted_of_touchedBlocks_eq_nil (List.isEmpty_iff.1 hnone)
            exact congrArg (fun out => Except.ok
              (Formatted.mk out (formatted options.policy text (first :: rest)).report)) htext.symm
          · rw [hsplice]
            rfl

theorem scan_eq (options : Options) (text : Bytes) :
    scan options text = .ok (scanLines text) ∨ ∃ e, scan options text = .error e := by
  unfold scan
  cases options.scanner with
  | lines => exact .inl rfl
  | backtracking =>
      dsimp only
      rw [scanBacktracking_eq_charge, Backtracking.charge]
      split
      · exact .inl rfl
      · exact .inr ⟨_, rfl⟩

/-- A scan that does not give up finds the blocks of the line scanner. -/
theorem eq_scanLines_of_scan {options : Options} {text : Bytes} {blocks : List Block}
    (h : scan options text = .ok blocks) : blocks = scanLines text := by
  rcases scan_eq options text with hlines | ⟨e, herror⟩
  · exact Except.ok.inj (h.symm.trans hlines)
  · rw [h] at herror
    cases herror

/-- The answer of a pass hangs on the length of the document, on whether the scan gives
up and on the first fence that is too deep. -/
theorem format_eq (options : Options) (text : Bytes) :
    format options text =
      if options.limits.maxDocumentBytes.toNat < text.length then
        .error (.documentTooLarge text.length options.limits.maxDocumentBytes.toNat)
      else
        match scan options text with
        | .error _ => .ok ⟨text, { passthrough := true }⟩
        | .ok _ =>
          match tooDeep? options (scanLines text) with
          | some b => .error (.indentTooLarge ⟨b.indent, options.limits.maxFenceIndent.toNat⟩)
          | none => .ok (formatted options.policy text (scanLines text)) := by
  unfold format
  dsimp only
  split
  · rfl
  · rcases scan_eq options text with hscan | ⟨e, hscan⟩
    · rw [hscan]
      exact formatBlocks_eq options (wellPlaced_scanLines text)
    · rw [hscan]
      rfl

/-- A pass that succeeds left the document alone or realigned the bodies that the
line scanner finds. -/
theorem format_eq_ok_cases {options : Options} {text : Bytes} {f : Formatted}
    (h : format options text = .ok f) :
    f = ⟨text, { passthrough := true }⟩ ∨
      tooDeep? options (scanLines text) = none ∧
        f = formatted options.policy text (scanLines text) := by
  rw [format_eq] at h
  split at h
  · cases h
  · split at h
    · cases h
      exact .inl rfl
    · split at h
      · cases h
      · rename_i hdeep
        cases h
        exact .inr ⟨hdeep, rfl⟩

section Splice

theorem slice_eq_of_append {a b c text : Bytes} (htext : text = a ++ (b ++ c)) {s : Span}
    (hstart : s.start = a.length) (hstop : s.stop = a.length + b.length) : s.slice text = b := by
  rw [Span.slice, Span.length, hstart, hstop, Nat.add_sub_cancel_left, htext, List.drop_left,
    List.take_left]

theorem slice_body_blockAt (number indent : Nat) (a opening closing r : Bytes)
    (body : List Bytes) :
    (blockAt number a.length indent opening body closing).body.slice
      (a ++ (opening ++ (body.flatten ++ r))) = body.flatten := by
  have htext : a ++ (opening ++ (body.flatten ++ r)) = (a ++ opening) ++ (body.flatten ++ r) := by
    rw [List.append_assoc]
  apply slice_eq_of_append htext
  · simp [blockAt]
  · simp [blockAt]

/-- An edit puts its body in the place of `c`, between the bytes before it and the
rest of the document. -/
theorem spliceFrom_cons {a b c r text : Bytes} (htext : text = a ++ (b ++ (c ++ r))) {e : Edit}
    (hstart : e.block.body.start = a.length + b.length)
    (hstop : e.block.body.stop = a.length + b.length + c.length) {pos : Nat}
    (hpos : pos ≤ a.length) (edits : List Edit) :
    spliceFrom pos (text.drop pos) (e :: edits) = a.drop pos ++ b ++ e.body ++
      spliceFrom e.block.body.stop (text.drop e.block.body.stop) edits := by
  have hgap : (text.drop pos).take (e.block.body.start - pos) = a.drop pos ++ b := by
    rw [htext, List.drop_append_of_le_length hpos, ← List.append_assoc, List.take_left']
    rw [hstart, List.length_append, List.length_drop]
    omega
  have hstop' : pos + (e.block.body.stop - pos) = e.block.body.stop := by omega
  rw [spliceFrom, hgap, List.drop_drop, hstop']

theorem realignedBlocks_placeParts_cons (policy : Policy) {a text : Bytes} {indent : Nat}
    {opening : Bytes} {body : List Bytes} {closing : Bytes} {parts : List Part}
    (htext : text = a ++ (partLines (.block indent opening body closing :: parts)).flatten)
    (number : Nat) :
    realignedBlocks policy text
        (placeParts number a.length (.block indent opening body closing :: parts)) =
      (blockAt number a.length indent opening body closing,
          policy.realign indent body.flatten) ::
        realignedBlocks policy text (placeParts (number + (body.length + 2))
          (a ++ (opening ++ body.flatten ++ closing)).length parts) := by
  have htext' : text = a ++ (opening ++ (body.flatten ++
      (closing ++ (partLines parts).flatten))) := by
    simp [htext, Part.lines]
  have hslice : (blockAt number a.length indent opening body closing).body.slice text =
      body.flatten := by
    rw [htext', slice_body_blockAt]
  have hblock : realignedBlocks policy text
      [blockAt number a.length indent opening body closing] =
        [(blockAt number a.length indent opening body closing,
          policy.realign indent body.flatten)] := by
    rw [realignedBlocks, List.map_singleton, hslice]
    rfl
  have hcons : placeParts number a.length (.block indent opening body closing :: parts) =
      [blockAt number a.length indent opening body closing] ++
        placeParts (number + (body.length + 2))
          (a ++ (opening ++ body.flatten ++ closing)).length parts := by
    simp [placeParts_cons, Part.place?, Part.lines]
  rw [hcons, realignedBlocks, List.map_append, ← realignedBlocks, hblock]
  rfl

/-- Splicing bodies into the rest of a document, from byte `pos` on. The first
part starts behind `a`, and of the bodies at least those that change are spliced
in. -/
theorem spliceFrom_placeParts (policy : Policy) {keep : Block × Realigned → Bool}
    (hkeep : ∀ r, keep r = false → r.2.changedLines = 0) {parts : List Part}
    (hcut : IsCut (partLines parts)) (number : Nat) {a text : Bytes}
    (htext : text = a ++ (partLines parts).flatten) {pos : Nat} (hpos : pos ≤ a.length) :
    spliceFrom pos (text.drop pos) (editsOf ((realignedBlocks policy text
      (placeParts number a.length parts)).filter keep)) =
      a.drop pos ++ (realignLines policy parts).flatten := by
  induction parts generalizing number a pos with
  | nil => simp [htext, realignedBlocks, editsOf, spliceFrom]
  | cons p parts ih =>
      have hcut' : IsCut (partLines parts) := hcut.of_cons_parts
      cases p with
      | line line =>
          have hnext := ih hcut' (number + 1) (a := a ++ line) (by simp [htext, Part.lines])
            (Nat.le_trans hpos (by simp))
          rw [List.length_append, List.drop_append_of_le_length hpos] at hnext
          simpa [placeParts_cons, Part.place?, Part.lines, Part.realign] using hnext
      | block indent opening body closing =>
          have hbody : IsCut body := hcut.body_of_mem List.mem_cons_self
          have hrest : text = a ++ (opening ++ body.flatten ++ closing) ++
              (partLines parts).flatten := by
            simp [htext, Part.lines]
          rw [realignedBlocks_placeParts_cons policy htext]
          by_cases hkept : keep (blockAt number a.length indent opening body closing,
              policy.realign indent body.flatten) = true
          · -- the gap before the body, the new body, and then the closing fence
            have hpos' : a.length + opening.length + body.flatten.length ≤
                (a ++ (opening ++ body.flatten ++ closing)).length := by
              simp only [List.length_append]
              omega
            have hnext := ih hcut' (number + (body.length + 2)) hrest hpos'
            have hclosing : (a ++ (opening ++ body.flatten ++ closing)).drop
                (a.length + opening.length + body.flatten.length) = closing := by
              rw [← List.append_assoc, List.drop_left']
              simp [Nat.add_assoc]
            have htext' : text = a ++ (opening ++ (body.flatten ++
                (closing ++ (partLines parts).flatten))) := by
              simp [hrest]
            rw [List.filter_cons_of_pos hkept, editsOf, List.map_cons, ← editsOf,
              spliceFrom_cons htext' rfl rfl hpos]
            dsimp only [blockAt]
            rw [hnext, hclosing, policy.realign_flatten indent hbody]
            simp [Part.lines, Part.realign]
          · -- the body is left out, for it is settled
            have hsettled : policy.Settled indent (body.map .ofText) := by
              rw [← policy.changedLines_eq_zero_iff indent hbody]
              exact hkeep _ (by simpa using hkept)
            rw [List.filter_cons_of_neg hkept, ih hcut' _ hrest (Nat.le_trans hpos (by simp)),
              List.drop_append_of_le_length hpos, realignLines_cons, Part.realign,
              policy.reline_of_settled indent hsettled]
            simp [Part.lines]

end Splice

section Outline

variable {parts : List Part} {text : Bytes}

theorem IsOutline.text_formatted (h : IsOutline parts) (hlines : partLines parts = splitLines text)
    (policy : Policy) :
    (formatted policy text (scanLines text)).text = (realignLines policy parts).flatten := by
  have htext : text = [] ++ (partLines parts).flatten := (flatten_partLines hlines).symm
  have hkeep : ∀ r : Block × Realigned, decide (0 < r.2.changedLines) = false →
      r.2.changedLines = 0 := by simp
  have hsplice := spliceFrom_placeParts policy hkeep (isCut_partLines hlines) 0
    htext (Nat.zero_le _)
  rw [h.scanLines_eq_placeParts hlines]
  simpa [formatted, touchedBlocks] using hsplice

theorem IsOutline.touchedBlocks_eq_nil (h : IsOutline parts)
    (hlines : partLines parts = splitLines text) {policy : Policy}
    (hsettled : ∀ p ∈ parts, p.Settled policy) :
    touchedBlocks policy text (scanLines text) = [] := by
  rw [touchedBlocks, List.filter_eq_nil_iff, h.scanLines_eq_placeParts hlines]
  intro r hr
  obtain ⟨b, hb, rfl⟩ := List.mem_map.1 hr
  obtain ⟨before, indent, opening, body, closing, after, hparts, rfl⟩ := mem_placeParts_iff.1 hb
  have hmem : Part.block indent opening body closing ∈ parts := by simp [hparts]
  have hbody : IsCut body := (isCut_partLines hlines).body_of_mem hmem
  have htext : text = (partLines before).flatten ++ (opening ++ (body.flatten ++
      (closing ++ (partLines after).flatten))) := by
    rw [← flatten_splitLines text, ← hlines, hparts]
    simp [partLines, Part.lines]
  have hslice : (blockAt (0 + (partLines before).length) (0 + (partLines before).flatten.length)
      indent opening body closing).body.slice text = body.flatten := by
    rw [htext, Nat.zero_add, Nat.zero_add, slice_body_blockAt]
  have hzero : (policy.realign indent body.flatten).changedLines = 0 :=
    (policy.changedLines_eq_zero_iff indent hbody).2 (hsettled _ hmem)
  rw [hslice]
  simpa [blockAt] using hzero

end Outline

end FencedDiff
