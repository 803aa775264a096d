import FencedDiff.Except
import FencedDiff.Proofs.Document.Answer

/-!
# A pass without shortcuts

A pass takes shortcuts: it stops where no block is found and where no body changes, and
it splices in only the bodies that change. The plain way has none of them. It realigns
every body and puts it, changed or not, between the stretches of text around it
(`formatPlainly`).

Both give the same text (`format_agrees_plain`). The reason is that a body of which no
line is counted as changed is realigned to itself, so an outline of the text is spliced
alike with and without it.
-/

namespace FencedDiff

open Bytes

/-- Formats a document by realigning and putting back the body of every block. -/
def formatPlainly (options : Options) (text : Bytes) : Except FormatError Bytes := do
  let blocks ← (scan options text).mapError .scanFailed
  let bodies ← (blocks.mapM fun b =>
    (realignBody options b.indent (b.body.slice text)).map fun r => (b.body, r.text)).mapError
      .indentTooLarge
  return interleave text 0 bodies

/-- All realigned bodies of a text may be spliced in instead of those that change. -/
theorem text_formatted_eq_interleave (policy : Policy) (text : Bytes) :
    (formatted policy text (scanLines text)).text =
      interleave text 0 ((scanLines text).map fun b =>
        (b.body, (policy.realign b.indent (b.body.slice text)).text)) := by
  obtain ⟨parts, hparts, hlines⟩ := exists_outline (splitLines text)
  have htext : text = [] ++ (partLines parts).flatten := (flatten_partLines hlines).symm
  -- every body is kept for splicing, also those that are settled
  have hkeep : ∀ r : Block × Realigned, true = false → r.2.changedLines = 0 := by simp
  have hall := spliceFrom_placeParts policy hkeep (isCut_partLines hlines) 0 htext
    (Nat.zero_le _)
  rw [List.filter_true, List.length_nil, ← hparts.scanLines_eq_placeParts hlines] at hall
  have hplaced : WellPlaced text.length
      ((editsOf (realignedBlocks policy text (scanLines text))).map Edit.block) := by
    rw [map_block_editsOf_realignedBlocks]
    exact wellPlaced_scanLines text
  rw [spliceFrom_eq_interleave hplaced (fun _ _ => Nat.zero_le _)] at hall
  rw [hparts.text_formatted hlines, ← List.nil_append (realignLines policy parts).flatten]
  simpa [editsOf, realignedBlocks, Function.comp_def] using hall.symm

/-- The plain way answers the text of the pass, where no fence is too deep. -/
theorem formatPlainly_eq_ok {options : Options} {text : Bytes}
    (hscan : scan options text = .ok (scanLines text))
    (hdeep : ∀ b ∈ scanLines text, b.indent ≤ options.limits.maxFenceIndent.toNat) :
    formatPlainly options text =
      .ok (formatted options.policy text (scanLines text)).text := by
  have hbodies := mapM_eq_ok_map (f := fun b : Block =>
      (realignBody options b.indent (b.body.slice text)).map fun r => (b.body, r.text))
    fun b hb => by
      rw [realignBody_of_le (hdeep b hb)]
      rfl
  rw [formatPlainly, hscan, text_formatted_eq_interleave]
  change Except.mapError _ (List.mapM _ (scanLines text)) >>= _ = _
  rw [hbodies]
  rfl

/-- The edits of a pass are well placed, for they are some of the blocks. -/
theorem checkPlacement_touchedBlocks (policy : Policy) (text : Bytes) :
    checkPlacement text.length ((touchedBlocks policy text (scanLines text)).map Prod.fst) =
      .ok () := by
  have hsub := map_block_editsOf_touchedBlocks_sublist policy text (scanLines text)
  rw [editsOf, List.map_map] at hsub
  exact checkPlacement_eq_ok_iff.2 ((wellPlaced_scanLines text).sublist hsub)

/-- The shortcuts of a pass have no influence on what it answers: a pass that is done
answers what the plain way answers, and the bodies that it splices in, those with a line
that changed, are never refused as misplaced. -/
theorem format_agrees_plain (options : Options) (text : Bytes) :
    (∀ f, format options text = .ok f → f.report.passthrough = false →
      formatPlainly options text = .ok f.text) ∧
    ∀ blocks realigned, scan options text = .ok blocks →
      realignBlocks options text.toArray blocks = .ok realigned →
      checkPlacement text.length
        ((realigned.filter fun r => 0 < r.2.changedLines).map Prod.fst) = .ok () := by
  constructor
  · intro f hformat hpass
    have h := answers_format options text
    rw [hformat] at h
    cases h with
    | passedThrough => cases hpass
    | done hlength hout hindent => exact formatPlainly_eq_ok (scan_eq_ok_iff.2 hout) hindent
  · intro blocks realigned hscan hrealigned
    obtain rfl := eq_scanLines_of_scan hscan
    rw [realignBlocks_eq] at hrealigned
    split at hrealigned
    · cases hrealigned
    · cases hrealigned
      exact checkPlacement_touchedBlocks options.policy text

/-- Three blocks one right behind the other. Of the first and the last a line moves, and the
one between them is not indented. -/
def middleSettled : Bytes :=
  space :: ticks ++ tag ++ [newline, minus, 0x61, newline] ++ ticks ++ [newline] ++ ticks ++ tag ++
    [newline, minus, 0x62, newline] ++ ticks ++ [newline] ++ spaces 2 ++ ticks ++ tag ++
    [newline, plus, 0x63, newline] ++ ticks

def middleSettledFormatted : Bytes :=
  space :: ticks ++ tag ++ [newline, space, minus, 0x61, newline] ++ ticks ++ [newline] ++ ticks ++
    tag ++ [newline, minus, 0x62, newline] ++ ticks ++ [newline] ++ spaces 2 ++ ticks ++ tag ++
    [newline, space, space, plus, 0x63, newline] ++ ticks

theorem format_agrees_plain_middleSettled :
    format {} middleSettled = .ok ⟨middleSettledFormatted, ⟨3, 2, 2, false⟩⟩ ∧
      formatPlainly {} middleSettled = .ok middleSettledFormatted ∧
      checkPlacement middleSettled.length
        ((touchedBlocks .changedLines middleSettled (scanLines middleSettled)).map Prod.fst) =
          .ok () := by
  have h : format {} middleSettled = .ok ⟨middleSettledFormatted, ⟨3, 2, 2, false⟩⟩ := by
    decide +kernel
  have hrealigned : realignBlocks {} middleSettled.toArray (scanLines middleSettled) =
      .ok (realignedBlocks .changedLines middleSettled (scanLines middleSettled)) := by
    decide +kernel
  obtain ⟨hplain, hplaced⟩ := format_agrees_plain {} middleSettled
  exact ⟨h, hplain _ h rfl, hplaced _ _ rfl hrealigned⟩

end FencedDiff
