import FencedDiff.Except
import FencedDiff.Proofs.Fence.Outline

/-!
# Well placed blocks

The placement check goes through the blocks with one number, the end of the
block before. It accepts exactly the lists in which each block lies within the
document with its body inside, and any two blocks come one after the other
(`checkPlacement_eq_ok_iff`); with the condition on all pairs it is plain that
leaving out blocks does no harm. The blocks of an outline are well placed, and so
are those of a document (`wellPlaced_scanLines`).
-/

namespace FencedDiff

/-- The block lies in a document of `length` bytes, and its body in the block. -/
structure Block.Within (length : Nat) (b : Block) : Prop where
  start_le : b.span.start ≤ b.body.start
  body_le : b.body.start ≤ b.body.stop
  stop_le : b.body.stop ≤ b.span.stop
  le_length : b.span.stop ≤ length

/-- The span of a block lies in a document of `length` bytes. -/
def Block.InBounds (length : Nat) (b : Block) : Prop :=
  b.span.start ≤ b.span.stop ∧ b.span.stop ≤ length

/-- Every block lies within the document, and each ends before the later ones
begin. -/
structure WellPlaced (length : Nat) (blocks : List Block) : Prop where
  within : ∀ b ∈ blocks, b.Within length
  ordered : blocks.Pairwise fun a b => a.span.stop ≤ b.span.start

variable {length previousEnd : Nat} {blocks : List Block} {b : Block}

theorem WellPlaced.sublist {fewer : List Block}
    (h : WellPlaced length blocks) (hsub : fewer.Sublist blocks) :
    WellPlaced length fewer :=
  ⟨fun b hb => h.within b (hsub.subset hb), h.ordered.sublist hsub⟩

theorem Block.Within.inBounds (h : b.Within length) : b.InBounds length :=
  ⟨h.start_le.trans (h.body_le.trans h.stop_le), h.le_length⟩

theorem Block.inBounds_iff :
    b.InBounds length ↔ ¬ (b.span.stop < b.span.start || length < b.span.stop) = true := by
  rw [Bool.or_eq_true, not_or, decide_eq_true_eq, decide_eq_true_eq, Nat.not_lt, Nat.not_lt]
  rfl

theorem Block.InBounds.within_iff (h : b.InBounds length) :
    b.Within length ↔ ¬ (b.body.stop < b.body.start || !b.span.contains b.body) = true := by
  rw [Bool.or_eq_true, not_or, decide_eq_true_eq, Nat.not_lt, Bool.not_eq_true', Bool.not_eq_false,
    Span.contains_iff]
  constructor
  · exact fun hwithin => ⟨hwithin.body_le, hwithin.start_le, hwithin.stop_le⟩
  · rintro ⟨hbody, hstart, hstop⟩
    exact ⟨hstart, hbody, hstop, h.2⟩

/-- The check of a list goes on behind its first block. -/
theorem checkPlacementFrom_cons :
    checkPlacementFrom length previousEnd (b :: blocks) =
      checkPlacementFrom length previousEnd [b] >>= fun _ =>
        checkPlacementFrom length b.span.stop blocks := by
  rw [checkPlacementFrom, checkPlacementFrom, checkPlacementFrom]
  split
  · rfl
  · split
    · rfl
    · split <;> rfl

/-- One block is accepted if it lies within the document and behind the place. -/
theorem checkPlacementFrom_singleton_eq_ok_iff :
    checkPlacementFrom length previousEnd [b] = .ok () ↔
      b.Within length ∧ previousEnd ≤ b.span.start := by
  rw [checkPlacementFrom, checkPlacementFrom]
  by_cases hbounds : b.InBounds length
  · rw [if_neg (Block.inBounds_iff.1 hbounds)]
    by_cases hwithin : b.Within length
    · rw [if_neg (hbounds.within_iff.1 hwithin)]
      by_cases horder : previousEnd ≤ b.span.start
      · rw [if_neg (Nat.not_lt.2 horder)]
        simp [hwithin, horder]
      · rw [if_pos (Nat.not_le.1 horder)]
        simp [horder]
    · rw [if_pos (not_not.1 (mt hbounds.within_iff.2 hwithin))]
      simp [hwithin]
  · rw [if_pos (not_not.1 (mt Block.inBounds_iff.2 hbounds))]
    simp [mt Block.Within.inBounds hbounds]

theorem checkPlacementFrom_eq_ok_iff :
    checkPlacementFrom length previousEnd blocks = .ok () ↔
      (∀ b ∈ blocks, previousEnd ≤ b.span.start) ∧ WellPlaced length blocks := by
  induction blocks generalizing previousEnd with
  | nil =>
      simp only [checkPlacementFrom, true_iff]
      exact ⟨by simp, by simp, .nil⟩
  | cons b blocks ih =>
      rw [checkPlacementFrom_cons, bind_eq_ok_iff, List.forall_mem_cons]
      constructor
      · rintro ⟨⟨⟩, hb, hblocks⟩
        obtain ⟨hwithin, horder⟩ := checkPlacementFrom_singleton_eq_ok_iff.1 hb
        obtain ⟨hafter, hplaced⟩ := ih.1 hblocks
        have hspan := hwithin.inBounds.1
        refine ⟨⟨horder, fun a ha => ?_⟩, ?_, ?_⟩
        · exact horder.trans (hspan.trans (hafter a ha))
        · exact List.forall_mem_cons.2 ⟨hwithin, hplaced.within⟩
        · exact List.pairwise_cons.2 ⟨hafter, hplaced.ordered⟩
      · rintro ⟨⟨horder, _⟩, hplaced⟩
        obtain ⟨hwithin, hrest⟩ := List.forall_mem_cons.1 hplaced.within
        obtain ⟨hafter, hordered⟩ := List.pairwise_cons.1 hplaced.ordered
        exact ⟨(), checkPlacementFrom_singleton_eq_ok_iff.2 ⟨hwithin, horder⟩,
          ih.2 ⟨hafter, hrest, hordered⟩⟩

/-- The check accepts the lists of blocks that are well placed. -/
theorem checkPlacement_eq_ok_iff :
    checkPlacement length blocks = .ok () ↔ WellPlaced length blocks := by
  rw [checkPlacement, checkPlacementFrom_eq_ok_iff]
  simp

/-- A block of an outline comes from a part; the lines before that part say where
it is. -/
theorem mem_placeParts_iff {number start : Nat} {parts : List Part} :
    b ∈ placeParts number start parts ↔
      ∃ before indent opening body closing after,
        parts = before ++ .block indent opening body closing :: after ∧
        b = blockAt (number + (partLines before).length)
          (start + (partLines before).flatten.length) indent opening body closing := by
  induction parts generalizing number start with
  | nil => simp
  | cons p parts ih =>
      rw [placeParts_cons, List.mem_append, ih]
      constructor
      · rintro (h | ⟨before, indent, opening, body, closing, after, rfl, rfl⟩)
        · cases p with
          | line text => simp [Part.place?] at h
          | block indent opening body closing =>
              exact ⟨[], indent, opening, body, closing, parts, rfl,
                by simpa [Part.place?] using h⟩
        · refine ⟨p :: before, indent, opening, body, closing, after, rfl, ?_⟩
          simp only [partLines_cons, List.length_append, List.flatten_append,
            Nat.add_assoc]
      · rintro ⟨before, indent, opening, body, closing, after, hparts, rfl⟩
        cases before with
        | nil =>
            obtain ⟨rfl, rfl⟩ := List.cons.inj hparts
            exact .inl (by simp [Part.place?])
        | cons q before =>
            obtain ⟨rfl, rfl⟩ := List.cons.inj hparts
            refine .inr ⟨before, indent, opening, body, closing, after, rfl, ?_⟩
            simp only [partLines_cons, List.length_append, List.flatten_append,
              Nat.add_assoc]

/-- The blocks of parts stay on the lines and the bytes of the parts. -/
theorem bounds_of_mem_placeParts {number start : Nat} {parts : List Part}
    (h : b ∈ placeParts number start parts) :
    number ≤ b.startLine ∧ b.startLine < b.endLine ∧
      b.endLine < number + (partLines parts).length ∧ start ≤ b.span.start ∧
      b.Within (start + (partLines parts).flatten.length) := by
  obtain ⟨before, indent, opening, body, closing, after, rfl, rfl⟩ :=
    mem_placeParts_iff.1 h
  have hlines : partLines (before ++ .block indent opening body closing :: after) =
      partLines before ++ (opening :: (body ++ [closing]) ++ partLines after) := by
    simp [partLines, Part.lines]
  rw [hlines]
  simp only [blockAt, List.length_append, List.length_cons, List.length_nil,
    List.flatten_append, List.flatten_cons, List.flatten_nil]
  refine ⟨by omega, by omega, by omega, by omega, ?_, ?_, ?_, ?_⟩ <;> dsimp only <;> omega

theorem pairwise_placeParts (number start : Nat) (parts : List Part) :
    (placeParts number start parts).Pairwise fun a b =>
      a.endLine < b.startLine ∧ a.span.stop ≤ b.span.start := by
  induction parts generalizing number start with
  | nil => exact .nil
  | cons p parts ih =>
      rw [placeParts_cons, List.pairwise_append]
      refine ⟨?_, ih _ _, ?_⟩
      · cases p.place? number start <;> simp
      · intro a ha b hb
        have hafter := bounds_of_mem_placeParts hb
        have ha' : a ∈ placeParts number start [p] := by
          rw [placeParts_cons]
          exact List.mem_append_left _ ha
        have hbefore := bounds_of_mem_placeParts ha'
        have hstop := hbefore.2.2.2.2.le_length
        simp only [partLines_cons, partLines_nil, List.append_nil] at hbefore hstop
        omega

theorem wellPlaced_placeParts (number : Nat) (parts : List Part) :
    WellPlaced (partLines parts).flatten.length (placeParts number 0 parts) where
  within b hb := by
    have h := (bounds_of_mem_placeParts hb).2.2.2.2
    rwa [Nat.zero_add] at h
  ordered := (pairwise_placeParts number 0 parts).imp And.right

theorem wellPlaced_scanLines (text : Bytes) :
    WellPlaced text.length (scanLines text) := by
  obtain ⟨parts, hparts, hlines⟩ := exists_outline (splitLines text)
  have h := wellPlaced_placeParts 0 parts
  rwa [flatten_partLines hlines, ← hparts.scanLines_eq_placeParts hlines] at h

end FencedDiff
