import FencedDiff.Proofs.Document.Outcome

/-!
# Blocks after a pass

A pass rewrites the very lines that the scanner reads, and yet the scanner finds
the same blocks in the new document: on the same lines, with the same fences and
indentation, and with the realigned bodies (`format_keeps_blocks`).

Both documents are read along one outline. What comes before the current part is
carried along for each of them, so how far a block has moved is never computed.
-/

namespace FencedDiff

open Bytes

/-- The place of the opening fence's line. -/
def Block.openingLine (b : Block) : Span := ⟨b.span.start, b.body.start⟩

/-- The place of the closing fence's line. -/
def Block.closingLine (b : Block) : Span := ⟨b.body.stop, b.span.stop⟩

/-- Block `b` of the new document is block `a` of the old one with its body realigned. -/
structure KeepsBlock (options : Options) (old new : Bytes) (a b : Block) : Prop where
  startLine_eq : b.startLine = a.startLine
  endLine_eq : b.endLine = a.endLine
  indent_eq : b.indent = a.indent
  opening_eq : b.openingLine.slice new = a.openingLine.slice old
  closing_eq : b.closingLine.slice new = a.closingLine.slice old
  body_eq : (realignBody options a.indent (a.body.slice old)).map Realigned.text =
    .ok (b.body.slice new)

/-- The new body is the old one realigned. -/
theorem KeepsBlock.slice_body_eq {options : Options} {old new : Bytes} {a b : Block}
    (h : KeepsBlock options old new a b) :
    b.body.slice new = (options.policy.realign a.indent (a.body.slice old)).text := by
  have hbody := h.body_eq
  cases hr : realignBody options a.indent (a.body.slice old) with
  | error cause =>
      rw [hr] at hbody
      cases hbody
  | ok r =>
      rw [hr] at hbody
      rw [← eq_realign_of_realignBody hr]
      exact (Except.ok.inj hbody).symm

theorem slice_openingLine_blockAt (number indent : Nat) (a opening closing r : Bytes)
    (body : List Bytes) :
    (blockAt number a.length indent opening body closing).openingLine.slice
      (a ++ (opening ++ r)) = opening :=
  slice_eq_of_append rfl rfl rfl

theorem slice_closingLine_blockAt (number indent : Nat) (a opening closing r : Bytes)
    (body : List Bytes) :
    (blockAt number a.length indent opening body closing).closingLine.slice
      (a ++ (opening ++ (body.flatten ++ (closing ++ r)))) = closing := by
  have htext : a ++ (opening ++ (body.flatten ++ (closing ++ r))) =
      (a ++ (opening ++ body.flatten)) ++ (closing ++ r) := by simp
  apply slice_eq_of_append htext
  · simp [blockAt, Block.closingLine, Nat.add_assoc]
  · simp [blockAt, Block.closingLine, Nat.add_assoc]

/-- A block whose body is realigned is kept, whatever is before and behind it. -/
theorem keepsBlock_blockAt {options : Options} {indent : Nat}
    (hindent : indent ≤ options.limits.maxFenceIndent.toNat) {body : List Bytes}
    (hbody : IsCut body) (number : Nat) (opening closing a r a' r' : Bytes) :
    KeepsBlock options (a ++ (opening ++ (body.flatten ++ (closing ++ r))))
      (a' ++ (opening ++ ((options.policy.reline indent body).flatten ++ (closing ++ r'))))
      (blockAt number a.length indent opening body closing)
      (blockAt number a'.length indent opening (options.policy.reline indent body) closing) where
  startLine_eq := rfl
  endLine_eq := by simp [blockAt]
  indent_eq := rfl
  opening_eq := by rw [slice_openingLine_blockAt, slice_openingLine_blockAt]
  closing_eq := by rw [slice_closingLine_blockAt, slice_closingLine_blockAt]
  body_eq := by
    have hdeep : ¬ options.limits.maxFenceIndent.toNat < indent := Nat.not_lt.2 hindent
    rw [slice_body_blockAt, slice_body_blockAt]
    simp only [realignBody, blockAt, hdeep, if_false, options.policy.realign_flatten indent hbody]
    rfl

/-- Blocks are kept along an outline. The first part starts behind `a` in the old
document and behind `a'` in the new one. -/
theorem keepsBlocks_placeParts {options : Options} {parts : List Part}
    (hcut : IsCut (partLines parts)) (number : Nat) (a a' : Bytes) {old new : Bytes}
    (hindent : ∀ b ∈ placeParts number a.length parts,
      b.indent ≤ options.limits.maxFenceIndent.toNat)
    (hold : old = a ++ (partLines parts).flatten)
    (hnew : new = a' ++ (realignLines options.policy parts).flatten) :
    List.Forall₂ (KeepsBlock options old new) (placeParts number a.length parts)
      (placeParts number a'.length (parts.map (Part.realign options.policy))) := by
  induction parts generalizing number a a' with
  | nil => exact .nil
  | cons p parts ih =>
      rw [placeParts_cons, List.forall_mem_append] at hindent
      rw [List.map_cons, placeParts_cons, placeParts_cons, Part.length_lines_realign]
      have hrest : List.Forall₂ (KeepsBlock options old new)
          (placeParts (number + p.lines.length) (a.length + p.lines.flatten.length) parts)
          (placeParts (number + p.lines.length)
            (a'.length + (p.realign options.policy).lines.flatten.length)
            (parts.map (Part.realign options.policy))) := by
        rw [← List.length_append, ← List.length_append]
        apply ih hcut.of_cons_parts _ (a ++ p.lines.flatten)
          (a' ++ (p.realign options.policy).lines.flatten)
        · rw [List.length_append]
          exact hindent.2
        · simp [hold]
        · simp [hnew]
      cases p with
      | line text => exact hrest
      | block indent opening body closing =>
          refine .cons ?_ hrest
          have hold' : old = a ++ (opening ++ (body.flatten ++
              (closing ++ (partLines parts).flatten))) := by
            simp [hold, Part.lines]
          have hnew' : new = a' ++ (opening ++ ((options.policy.reline indent body).flatten ++
              (closing ++ (realignLines options.policy parts).flatten))) := by
            simp [hnew, Part.lines, Part.realign]
          rw [hold', hnew']
          apply keepsBlock_blockAt _ (hcut.body_of_mem List.mem_cons_self)
          exact hindent.1 (blockAt number a.length indent opening body closing)
            (by simp [Part.place?])

theorem keepsBlocks_formatted {options : Options} {text : Bytes}
    (hdeep : tooDeep? options (scanLines text) = none) :
    List.Forall₂ (KeepsBlock options text (formatted options.policy text (scanLines text)).text)
      (scanLines text) (scanLines (formatted options.policy text (scanLines text)).text) := by
  obtain ⟨parts, hparts, hlines⟩ := exists_outline (splitLines text)
  have hcut := isCut_partLines hlines
  rw [hparts.text_formatted hlines, hparts.scanLines_realign hcut,
    hparts.scanLines_eq_placeParts hlines]
  rw [hparts.scanLines_eq_placeParts hlines, tooDeep?_eq_none_iff, List.forall_mem_map] at hdeep
  exact keepsBlocks_placeParts hcut 0 [] [] hdeep (flatten_partLines hlines).symm rfl

/-- The fences of the new document are as deep as before. -/
theorem tooDeep?_formatted {options : Options} {text : Bytes}
    (hdeep : tooDeep? options (scanLines text) = none) :
    tooDeep? options (scanLines (formatted options.policy text (scanLines text)).text) = none := by
  have hkeeps := keepsBlocks_formatted hdeep
  have hindent : (scanLines (formatted options.policy text (scanLines text)).text).map
      Block.indent = (scanLines text).map Block.indent := by
    rw [eq_comm, ← List.forall₂_eq_eq_eq, List.forall₂_map_left_iff, List.forall₂_map_right_iff]
    exact hkeeps.imp fun _ _ h => h.indent_eq.symm
  rw [tooDeep?_eq_none_iff] at hdeep ⊢
  rw [hindent]
  exact hdeep

/-- A pass that does not give up keeps the blocks of the document. -/
theorem format_keeps_blocks {options : Options} {text : Bytes} {f : Formatted}
    (h : format options text = .ok f) (hpass : f.report.passthrough = false) :
    List.Forall₂ (KeepsBlock options text f.text) (scanLines text) (scanLines f.text) := by
  rcases format_eq_ok_cases h with rfl | ⟨hdeep, rfl⟩
  · cases hpass
  · exact keepsBlocks_formatted hdeep

/-- Two indented blocks. The body of the first has an opening fence and what looks like
a closing one; the second moves with the bytes before it. -/
def twoBlocks : Bytes :=
  space :: ticks ++ tag ++ [newline, minus] ++ ticks ++ [newline] ++ ticks ++ tag ++ [newline] ++
    ticks ++ [newline] ++ spaces 2 ++ ticks ++ tag ++ [newline, plus, 0x62, newline] ++ ticks

def twoBlocksFormatted : Bytes :=
  space :: ticks ++ tag ++ [newline, space, minus] ++ ticks ++ [newline, space] ++ ticks ++ tag ++
    [newline] ++ ticks ++ [newline] ++ spaces 2 ++ ticks ++ tag ++
    [newline, space, space, plus, 0x62, newline] ++ ticks

theorem format_keeps_blocks_twoBlocks :
    format { policy := .baseline } twoBlocks = .ok ⟨twoBlocksFormatted, ⟨2, 2, 3, false⟩⟩ ∧
      List.Forall₂ (KeepsBlock { policy := .baseline } twoBlocks twoBlocksFormatted)
        (scanLines twoBlocks) (scanLines twoBlocksFormatted) := by
  have h : format { policy := .baseline } twoBlocks =
      .ok ⟨twoBlocksFormatted, ⟨2, 2, 3, false⟩⟩ := by
    decide
  exact ⟨h, format_keeps_blocks h rfl⟩

end FencedDiff
