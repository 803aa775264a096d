import FencedDiff.Proofs.Document.Blocks
import FencedDiff.Proofs.Text.Difference

/-!
# What a report says

The report of a pass counts lines and bodies while they are realigned; that the
counts are those of the differences between the two documents is shown here
(`report_accounts`). A line of a body differs exactly if its content does, a body
exactly if one of its lines does, and the lines outside of bodies are the same in
both documents. So the number of changed lines is zero just for a document that
comes back as it was.
-/

namespace FencedDiff

open Bytes

/-- The bodies of the blocks of a text, in order. -/
def bodies (text : Bytes) : List Bytes := (scanLines text).map fun b => b.body.slice text

/-- The report counts the blocks of the old document, and the lines and bodies that are
not the same in the new one. -/
structure Report.Accounts (r : Report) (old new : Bytes) : Prop where
  blocksFound_eq : r.blocksFound = (scanLines old).length
  linesChanged_eq : r.linesChanged = differences (splitLines old) (splitLines new)
  blocksChanged_eq : r.blocksChanged = differences (bodies old) (bodies new)
  changed_iff : r.changed = true ↔ new ≠ old

section Body

variable (policy : Policy) (n : Nat) {body : List Bytes}

theorem Policy.changedLines_eq_differences (hbody : IsCut body) :
    (policy.realign n body.flatten).changedLines = differences body (policy.reline n body) := by
  have hdiff := differences_map_map id
    (fun text => (policy.line n (body.map .ofText) (.ofText text)).text) body
  rw [List.map_id, ← Policy.reline] at hdiff
  rw [hdiff, policy.realign_flatten n hbody, List.countP_map]
  apply List.countP_congr
  intro text htext
  -- both lines have the ending of the old one
  have hline : text = (BodyLine.ofText text).content ++ (BodyLine.ofText text).ending :=
    (BodyLine.text_ofText text).symm
  rw [Function.comp_apply, bne_iff_ne, bne_iff_ne, id_eq, ne_comm, ne_eq, ne_eq, not_iff_not]
  conv_rhs => lhs; rw [hline]
  exact (List.append_left_inj _).symm

theorem Policy.realign_text_eq_iff (body : Bytes) :
    (policy.realign n body).text = body ↔ (policy.realign n body).changedLines = 0 := by
  obtain ⟨hcut, hflat⟩ := isCut_splitLines body
  have hreline := hcut.respaced (policy.respaces_reline n (splitLines body))
  conv => rw [← hflat]
  rw [policy.changedLines_eq_differences n hcut, differences_eq_zero_iff,
    policy.realign_flatten n hcut, hreline.flatten_inj hcut, eq_comm]

end Body

theorem changedLinesIn_filter (rs : List (Block × Realigned)) :
    changedLinesIn (rs.filter fun r => 0 < r.2.changedLines) = changedLinesIn rs := by
  induction rs with
  | nil => rfl
  | cons r rs ih =>
      by_cases hr : 0 < r.2.changedLines
      · rw [List.filter_cons_of_pos (by simpa using hr), changedLinesIn, changedLinesIn, ih]
      · rw [List.filter_cons_of_neg (by simpa using hr), changedLinesIn, ih,
          Nat.eq_zero_of_not_pos hr, Nat.zero_add]

/-- The lines that change in the bodies of an outline are the lines in which it differs
from the realigned outline. -/
theorem changedLinesIn_realignedBlocks (policy : Policy) {parts : List Part}
    (hcut : IsCut (partLines parts)) (number : Nat) {a text : Bytes}
    (htext : text = a ++ (partLines parts).flatten) :
    changedLinesIn (realignedBlocks policy text (placeParts number a.length parts)) =
      differences (partLines parts) (realignLines policy parts) := by
  induction parts generalizing number a with
  | nil => rfl
  | cons p parts ih =>
      have hrest := ih hcut.of_cons_parts
      rw [partLines_cons, realignLines_cons,
        differences_append (p.length_lines_realign policy).symm]
      cases p with
      | line line =>
          have htext' : text = a ++ line ++ (partLines parts).flatten := by
            simp [htext, Part.lines]
          have hself : differences (Part.line line).lines
              ((Part.line line).realign policy).lines = 0 := differences_eq_zero_iff.2 rfl
          rw [hself, Nat.zero_add, ← hrest (number + 1) htext']
          simp [placeParts_cons, Part.place?, Part.lines]
      | block indent opening body closing =>
          have hbody : IsCut body := hcut.body_of_mem List.mem_cons_self
          have htext' : text = a ++ (opening ++ body.flatten ++ closing) ++
              (partLines parts).flatten := by
            simp [htext, Part.lines]
          rw [realignedBlocks_placeParts_cons policy htext, changedLinesIn,
            hrest (number + (body.length + 2)) htext',
            policy.changedLines_eq_differences indent hbody]
          congr 1
          have hclosing : differences [closing] [closing] = 0 := differences_eq_zero_iff.2 rfl
          rw [Part.realign, Part.lines, Part.lines, differences_cons,
            differences_append (policy.length_reline indent body).symm, hclosing]
          simp

section Formatted

variable {options : Options} {text : Bytes}

theorem linesChanged_formatted (policy : Policy) (text : Bytes) :
    (formatted policy text (scanLines text)).report.linesChanged =
      differences (splitLines text)
        (splitLines (formatted policy text (scanLines text)).text) := by
  obtain ⟨parts, hparts, hlines⟩ := exists_outline (splitLines text)
  have hcut := isCut_partLines hlines
  have htext : text = [] ++ (partLines parts).flatten := (flatten_partLines hlines).symm
  rw [hparts.text_formatted hlines, (hcut.realignLines policy).splitLines_flatten, ← hlines,
    ← changedLinesIn_realignedBlocks policy hcut 0 htext]
  rw [formatted, touchedBlocks, changedLinesIn_filter, hparts.scanLines_eq_placeParts hlines]
  rfl

theorem bodies_formatted (hdeep : tooDeep? options (scanLines text) = none) :
    bodies (formatted options.policy text (scanLines text)).text =
      (scanLines text).map fun b =>
        (options.policy.realign b.indent (b.body.slice text)).text := by
  rw [bodies, eq_comm, ← List.forall₂_eq_eq_eq, List.forall₂_map_left_iff,
    List.forall₂_map_right_iff]
  exact (keepsBlocks_formatted hdeep).imp fun _ _ hkeeps => hkeeps.slice_body_eq.symm

theorem blocksChanged_formatted (hdeep : tooDeep? options (scanLines text) = none) :
    (formatted options.policy text (scanLines text)).report.blocksChanged =
      differences (bodies text)
        (bodies (formatted options.policy text (scanLines text)).text) := by
  rw [bodies_formatted hdeep, bodies, differences_map_map, formatted, touchedBlocks,
    realignedBlocks]
  dsimp only
  rw [← List.countP_eq_length_filter, List.countP_map]
  apply List.countP_congr
  intro b hb
  have htext := options.policy.realign_text_eq_iff b.indent (b.body.slice text)
  rw [Function.comp_apply, decide_eq_true_iff, bne_iff_ne, Nat.pos_iff_ne_zero]
  exact (not_congr htext).symm.trans ne_comm

theorem accounts_formatted (hdeep : tooDeep? options (scanLines text) = none) :
    (formatted options.policy text (scanLines text)).report.Accounts text
      (formatted options.policy text (scanLines text)).text where
  blocksFound_eq := rfl
  linesChanged_eq := linesChanged_formatted options.policy text
  blocksChanged_eq := blocksChanged_formatted hdeep
  changed_iff := by
    rw [Report.changed, decide_eq_true_iff, Nat.pos_iff_ne_zero, linesChanged_formatted, ne_eq,
      differences_eq_zero_iff, splitLines_inj, eq_comm]

theorem changed_iff_of_format {f : Formatted} (h : format options text = .ok f) :
    f.report.changed = true ↔ f.text ≠ text := by
  rcases format_eq_ok_cases h with rfl | ⟨hdeep, rfl⟩
  · simp [Report.changed]
  · exact (accounts_formatted hdeep).changed_iff

end Formatted

/-- The report of a pass tells the truth: about the differences if the pass was done, and
if it gave up, that there are none. -/
theorem report_accounts {options : Options} {text : Bytes} {f : Formatted}
    (h : format options text = .ok f) :
    (f.report.passthrough = false → f.report.Accounts text f.text) ∧
      (f.report.passthrough = true → f.text = text ∧ f.report.changed = false) := by
  rcases format_eq_ok_cases h with rfl | ⟨hdeep, rfl⟩
  · exact ⟨fun hpass => (by cases hpass), fun _ => ⟨rfl, rfl⟩⟩
  · exact ⟨fun _ => accounts_formatted hdeep, fun hpass => (by cases hpass)⟩

/-- Two blocks with something to move in the second only, where one of three lines is
marked. -/
def secondIndented : Bytes :=
  ticks ++ tag ++ [newline, minus, 0x61, newline] ++ ticks ++ [newline] ++ spaces 2 ++ ticks ++
    tag ++ [newline, plus, 0x62, newline, newline, 0x63, newline] ++ ticks

def secondIndentedFormatted : Bytes :=
  ticks ++ tag ++ [newline, minus, 0x61, newline] ++ ticks ++ [newline] ++ spaces 2 ++ ticks ++
    tag ++ [newline] ++ spaces 2 ++ [plus, 0x62, newline, newline, 0x63, newline] ++ ticks

theorem report_accounts_secondIndented :
    format {} secondIndented = .ok ⟨secondIndentedFormatted, ⟨2, 1, 1, false⟩⟩ ∧
      (⟨2, 1, 1, false⟩ : Report).Accounts secondIndented secondIndentedFormatted := by
  have h : format {} secondIndented = .ok ⟨secondIndentedFormatted, ⟨2, 1, 1, false⟩⟩ := by
    decide
  exact ⟨h, (report_accounts h).1 rfl⟩

end FencedDiff
