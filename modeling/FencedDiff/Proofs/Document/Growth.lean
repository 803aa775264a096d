import FencedDiff.Proofs.Document.Report

/-!
# How much a document grows

A document that is formatted gets no shorter, and for each line that changes it gets longer
by the deepest fence allowed at most (`format_growsBy`). `GrowsBy n count` says so of two
texts, where `count` is the number of lines that change and `n` is what one of them may
grow by.

It is enough to look at a line. Both policies put at most as many spaces in front of it as
the fence has, and of the spaces behind a marker they drop no more than they put in front.
Growth then adds up along texts that are put together from parts (`GrowsBy.append`): from
lines to bodies, where the fence of the block is the bound, and along the outline to the
document, where the bound is the limit on fences.
-/

namespace FencedDiff

open Bytes

/-- The second text is no shorter than the first, and longer by at most `n` for each of
`count` lines. -/
structure GrowsBy (n count : Nat) (old new : Bytes) : Prop where
  length_le : old.length ≤ new.length
  length_le_add : new.length ≤ old.length + n * count

namespace GrowsBy

variable {n n' count count' : Nat} {old new old' new' : Bytes}

theorem refl (n count : Nat) (text : Bytes) : GrowsBy n count text text :=
  ⟨Nat.le_refl _, Nat.le_add_right ..⟩

theorem append (h : GrowsBy n count old new) (h' : GrowsBy n count' old' new') :
    GrowsBy n (count + count') (old ++ old') (new ++ new') := by
  obtain ⟨hle, hadd⟩ := h
  obtain ⟨hle', hadd'⟩ := h'
  constructor
  · rw [List.length_append, List.length_append]
    omega
  · rw [List.length_append, List.length_append, Nat.mul_add]
    omega

theorem of_le (h : GrowsBy n count old new) (hn : n ≤ n') : GrowsBy n' count old new :=
  ⟨h.length_le, Nat.le_trans h.length_le_add
    (Nat.add_le_add_left (Nat.mul_le_mul_right count hn) _)⟩

/-- Of lines in step, those that are not the same count. -/
theorem flatten {lines lines' : List Bytes} (h : List.Forall₂ (GrowsBy n 1) lines lines') :
    GrowsBy n (differences lines lines') lines.flatten lines'.flatten := by
  induction h with
  | nil => exact .refl ..
  | @cons line line' lines lines' hline hlines ih =>
      rw [List.flatten_cons, List.flatten_cons, differences_cons, Nat.add_comm]
      apply append _ ih
      by_cases heq : line = line'
      · rw [heq]
        exact .refl ..
      · rw [if_pos (bne_iff_ne.2 heq)]
        exact hline

end GrowsBy

section Line

theorem BodyLine.growsBy_moved (n : Nat) (l : BodyLine) : GrowsBy n 1 l.content (l.moved n) := by
  by_cases h : l.kind = .changed
  · obtain ⟨marker, code, hcontent, _⟩ := LineKind.exists_marker_of_changed h
    have hcode := leadingSpaces_le_length code
    have hlength : (l.moved n).length = n + (code.length - min n (leadingSpaces code - 1) + 1) := by
      simp [moved, h, hcontent, moveMarker]
    constructor
    · rw [hlength, hcontent, List.length_cons]
      omega
    · rw [hlength, hcontent, List.length_cons]
      omega
  · rw [moved_of_ne_changed h]
    exact .refl ..

theorem BodyLine.growsBy_shifted {pad n : Nat} (h : pad ≤ n) (l : BodyLine) :
    GrowsBy n 1 l.content (l.shifted pad) := by
  cases hcode : l.isCode with
  | false =>
      rw [shifted_of_not_isCode hcode]
      exact .refl ..
  | true =>
      have hlength : (l.shifted pad).length = pad + l.content.length := by
        simp [shifted, hcode]
      constructor
      · omega
      · omega

theorem Policy.growsBy_content (policy : Policy) (n : Nat) (lines : List BodyLine)
    (l : BodyLine) : GrowsBy n 1 l.content (policy.content n lines l) := by
  cases policy with
  | changedLines => exact l.growsBy_moved n
  | baseline => exact l.growsBy_shifted (Nat.sub_le ..)

end Line

section Body

variable (policy : Policy) (n : Nat)

theorem Policy.growsBy_reline (body : List Bytes) :
    List.Forall₂ (GrowsBy n 1) body (policy.reline n body) := by
  rw [reline, List.forall₂_map_right_iff, List.forall₂_same]
  intro text _
  have hcontent := policy.growsBy_content n (body.map .ofText) (.ofText text)
  have hline := hcontent.append (.refl n 0 (lineEnding text))
  change GrowsBy n 1 (lineContent text ++ lineEnding text) _ at hline
  rwa [lineContent_append_lineEnding] at hline

theorem Policy.growsBy_realign_flatten {body : List Bytes} (hcut : IsCut body) :
    GrowsBy n (policy.realign n body.flatten).changedLines body.flatten
      (policy.realign n body.flatten).text := by
  rw [policy.changedLines_eq_differences n hcut, policy.realign_flatten n hcut]
  exact .flatten (policy.growsBy_reline n body)

/-- A body grows by at most the depth of its fence for each line that changes. -/
theorem Policy.growsBy_realign (body : Bytes) :
    GrowsBy n (policy.realign n body).changedLines body (policy.realign n body).text := by
  obtain ⟨hcut, hflat⟩ := isCut_splitLines body
  exact hflat ▸ policy.growsBy_realign_flatten n hcut

theorem Policy.changedLines_eq_differences_splitLines (body : Bytes) :
    (policy.realign n body).changedLines =
      differences (splitLines body) (splitLines (policy.realign n body).text) := by
  obtain ⟨hcut, hflat⟩ := isCut_splitLines body
  have hreline := hcut.respaced (policy.respaces_reline n (splitLines body))
  have hcount := policy.changedLines_eq_differences n hcut
  rw [← hreline.splitLines_flatten] at hcount
  rw [← hflat, hcount, hcut.splitLines_flatten, policy.realign_flatten n hcut]

end Body

section Document

variable {options : Options} {text : Bytes}

/-- The lines of an outline whose fences are no deeper than `max`. -/
theorem growsBy_realignLines (policy : Policy) {max number start : Nat} {parts : List Part}
    (hindent : ∀ b ∈ placeParts number start parts, b.indent ≤ max) :
    List.Forall₂ (GrowsBy max 1) (partLines parts) (realignLines policy parts) := by
  induction parts generalizing number start with
  | nil => exact .nil
  | cons p parts ih =>
      rw [placeParts_cons, List.forall_mem_append] at hindent
      refine List.rel_append ?_ (ih hindent.2)
      cases p with
      | line line => exact .cons (.refl ..) .nil
      | block indent opening body closing =>
          have hle : indent ≤ max :=
            hindent.1 (blockAt number start indent opening body closing) (by simp [Part.place?])
          have hbody := (policy.growsBy_reline indent body).imp fun _ _ h => h.of_le hle
          exact .cons (.refl ..) (List.rel_append hbody (.cons (.refl ..) .nil))

theorem growsBy_formatted (hdeep : tooDeep? options (scanLines text) = none) :
    GrowsBy options.limits.maxFenceIndent.toNat
      (formatted options.policy text (scanLines text)).report.linesChanged text
      (formatted options.policy text (scanLines text)).text := by
  obtain ⟨parts, hparts, hlines⟩ := exists_outline (splitLines text)
  have hcut := isCut_partLines hlines
  rw [tooDeep?_eq_none_iff, List.forall_mem_map, hparts.scanLines_eq_placeParts hlines] at hdeep
  have hgrows := GrowsBy.flatten (growsBy_realignLines options.policy hdeep)
  rw [linesChanged_formatted, hparts.text_formatted hlines,
    (hcut.realignLines options.policy).splitLines_flatten, ← hlines]
  rwa [flatten_partLines hlines] at hgrows

theorem KeepsBlock.growsBy {new : Bytes} {a b : Block} (h : KeepsBlock options text new a b) :
    GrowsBy a.indent
      (differences (splitLines (a.body.slice text)) (splitLines (b.body.slice new)))
      (a.body.slice text) (b.body.slice new) := by
  rw [h.slice_body_eq, ← options.policy.changedLines_eq_differences_splitLines]
  exact options.policy.growsBy_realign a.indent _

end Document

/-- A pass makes a document no shorter, and longer by at most the deepest fence allowed for
each line that it reports as changed. A body grows by at most the depth of its own fence for
each of its lines that differs, which is the number that realigning it counts. -/
theorem format_growsBy {options : Options} {text : Bytes} {f : Formatted}
    (h : format options text = .ok f) :
    GrowsBy options.limits.maxFenceIndent.toNat f.report.linesChanged text f.text ∧
      List.Forall₂ (fun a b => GrowsBy a.indent
          (differences (splitLines (a.body.slice text)) (splitLines (b.body.slice f.text)))
          (a.body.slice text) (b.body.slice f.text))
        (scanLines text) (scanLines f.text) ∧
      ∀ n body r, realignBody options n body = .ok r → GrowsBy n r.changedLines body r.text := by
  refine ⟨?_, ?_, fun n body r hr => ?_⟩
  · rcases format_eq_ok_cases h with rfl | ⟨hdeep, rfl⟩
    · exact .refl ..
    · exact growsBy_formatted hdeep
  · rcases format_eq_ok_cases h with rfl | ⟨hdeep, rfl⟩
    · exact List.forall₂_same.2 fun _ _ => .refl ..
    · exact (keepsBlocks_formatted hdeep).imp fun _ _ => KeepsBlock.growsBy
  · rw [eq_realign_of_realignBody hr]
    exact options.policy.growsBy_realign n body

/-- The first of two blocks may not grow as much as the limit on fences would let it. -/
theorem format_growsBy_twoBlocks :
    format { policy := .baseline, limits := { maxFenceIndent := 2 } } twoBlocks =
        .ok ⟨twoBlocksFormatted, ⟨2, 2, 3, false⟩⟩ ∧
      GrowsBy 2 3 twoBlocks twoBlocksFormatted ∧
      List.Forall₂ (fun a b => GrowsBy a.indent
          (differences (splitLines (a.body.slice twoBlocks))
            (splitLines (b.body.slice twoBlocksFormatted)))
          (a.body.slice twoBlocks) (b.body.slice twoBlocksFormatted))
        (scanLines twoBlocks) (scanLines twoBlocksFormatted) := by
  have h : format { policy := .baseline, limits := { maxFenceIndent := 2 } } twoBlocks =
      .ok ⟨twoBlocksFormatted, ⟨2, 2, 3, false⟩⟩ := by
    decide
  obtain ⟨hdocument, hblocks, _⟩ := format_growsBy h
  exact ⟨h, hdocument, hblocks⟩

end FencedDiff
