import FencedDiff.Proofs.Document.Concatenation
import FencedDiff.Proofs.Document.Report
import FencedDiff.Proofs.Text.CarriageReturn

/-!
# Formatting and the style of line endings

Where each newline of a document gets a carriage return, a pass answers what it answered
before, with the carriage returns (`format_crlf`).

Fences and the lines of a body are read by their contents, which carriage returns leave
alone. So the parts of an outline, with their lines ended differently, are an outline of
the other document (`IsOutline.map`), and a line of a body gets the new content that it
got. Every offset differs and none is compared: the counts of a report are numbers of
lines and of bodies that are not the same in two documents, and `crlf` takes no two of
them to the same (`Report.Accounts.crlf`).
-/

namespace FencedDiff

open Bytes

/-- A formatted document with a carriage return more before each newline. -/
def Formatted.crlf (f : Formatted) : Formatted where
  text := FencedDiff.crlf f.text
  report := f.report

section Parts

variable {parts : List Part} {f : Bytes → Bytes}

/-- The part with each of its lines rewritten. -/
def Part.map (f : Bytes → Bytes) : Part → Part
  | .line text => .line (f text)
  | .block indent opening body closing => .block indent (f opening) (body.map f) (f closing)

@[simp] theorem Part.lines_map (f : Bytes → Bytes) (p : Part) :
    (p.map f).lines = p.lines.map f := by
  cases p with
  | line text => rfl
  | block indent opening body closing => simp [map, lines]

theorem partLines_map (f : Bytes → Bytes) (parts : List Part) :
    partLines (parts.map (Part.map f)) = (partLines parts).map f := by
  induction parts with
  | nil => rfl
  | cons p parts ih => rw [List.map_cons, partLines_cons, ih, Part.lines_map, partLines_cons,
      List.map_append]

theorem signature_ne_closing_map {lines : List Bytes}
    (hf : ∀ l ∈ lines, signature (f l) = signature l)
    (h : ∀ l ∈ lines, signature l ≠ some .closing) :
    ∀ l ∈ lines.map f, signature l ≠ some .closing := by
  rw [List.forall_mem_map]
  intro l hl
  rw [hf l hl]
  exact h l hl

/-- An outline hangs on the signatures of its lines alone. -/
theorem IsOutline.map (h : IsOutline parts)
    (hf : ∀ l ∈ partLines parts, signature (f l) = signature l) :
    IsOutline (parts.map (Part.map f)) := by
  induction h with
  | nil => exact .nil
  | @line text parts hopen hparts ih =>
      rw [partLines_cons, Part.lines, List.forall_mem_append, List.forall_mem_singleton] at hf
      refine .line ?_ (ih hf.2)
      intro n hn
      rw [hf.1] at hn
      rw [partLines_map]
      exact signature_ne_closing_map hf.2 (hopen n hn)
  | @block indent opening body closing parts hopening hbody hclosing hparts ih =>
      rw [partLines_cons, Part.lines, List.forall_mem_append, List.forall_mem_cons,
        List.forall_mem_append, List.forall_mem_singleton] at hf
      obtain ⟨⟨hfopening, hfbody, hfclosing⟩, hfparts⟩ := hf
      exact .block (hfopening.trans hopening) (signature_ne_closing_map hfbody hbody)
        (hfclosing.trans hclosing) (ih hfparts)

/-- How deep the block of a part is, and its body. -/
def Part.fenced? : Part → Option (Nat × Bytes)
  | .line _ => none
  | .block indent _ body _ => some (indent, body.flatten)

/-- The depths and bodies of blocks are those of the parts, wherever these are placed. -/
theorem map_fenced_placeParts (number : Nat) {a text : Bytes}
    (htext : text = a ++ (partLines parts).flatten) :
    (placeParts number a.length parts).map (fun b => (b.indent, b.body.slice text)) =
      parts.filterMap Part.fenced? := by
  induction parts generalizing number a with
  | nil => rfl
  | cons p parts ih =>
      have hrest := ih (number + p.lines.length) (a := a ++ p.lines.flatten) (by simp [htext])
      rw [List.length_append] at hrest
      rw [placeParts_cons, List.map_append, hrest]
      cases p with
      | line line => rfl
      | block indent opening body closing =>
          have htext' : text = a ++ (opening ++ (body.flatten ++
              (closing ++ (partLines parts).flatten))) := by
            simp [htext, Part.lines]
          rw [Part.place?, Option.toList_some, List.map_singleton, htext', slice_body_blockAt]
          rfl

theorem IsOutline.map_fenced_scanLines (h : IsOutline parts) {text : Bytes}
    (hlines : partLines parts = splitLines text) :
    (scanLines text).map (fun b => (b.indent, b.body.slice text)) =
      parts.filterMap Part.fenced? := by
  have htext : text = [] ++ (partLines parts).flatten := (flatten_partLines hlines).symm
  rw [h.scanLines_eq_placeParts hlines]
  exact map_fenced_placeParts 0 htext

end Parts

section Blocks

theorem IsCut.signature_crlf {lines : List Bytes} (h : IsCut lines) :
    ∀ l ∈ lines, signature (crlf l) = signature l := by
  intro l hl
  rw [signature, h.lineContent_crlf_of_mem hl, signature]

/-- The parts of an outline with their carriage returns are an outline of the document with
its carriage returns. -/
theorem IsOutline.map_crlf {parts : List Part} (h : IsOutline parts) {text : Bytes}
    (hlines : partLines parts = splitLines text) :
    IsOutline (parts.map (Part.map crlf)) ∧
      partLines (parts.map (Part.map crlf)) = splitLines (crlf text) := by
  constructor
  · exact h.map (isCut_partLines hlines).signature_crlf
  · rw [partLines_map, hlines, splitLines_crlf]

theorem Part.fenced?_map_crlf (p : Part) :
    (p.map crlf).fenced? = p.fenced?.map (Prod.map id crlf) := by
  cases p with
  | line text => rfl
  | block indent opening body closing =>
      rw [Part.map, fenced?, fenced?, ← crlf_flatten]
      rfl

/-- The blocks of the document are as deep as before, and their bodies have the carriage
returns. -/
theorem map_fenced_scanLines_crlf (text : Bytes) :
    (scanLines (crlf text)).map (fun b => (b.indent, b.body.slice (crlf text))) =
      ((scanLines text).map fun b => (b.indent, b.body.slice text)).map (Prod.map id crlf) := by
  obtain ⟨parts, hparts, hlines⟩ := exists_outline (splitLines text)
  obtain ⟨hcrlf, hcrlflines⟩ := hparts.map_crlf hlines
  rw [hparts.map_fenced_scanLines hlines, hcrlf.map_fenced_scanLines hcrlflines,
    List.filterMap_map, List.map_filterMap]
  exact List.filterMap_congr fun p _ => p.fenced?_map_crlf

theorem length_scanLines_crlf (text : Bytes) :
    (scanLines (crlf text)).length = (scanLines text).length := by
  simpa using congrArg List.length (map_fenced_scanLines_crlf text)

theorem map_indent_scanLines_crlf (text : Bytes) :
    (scanLines (crlf text)).map Block.indent = (scanLines text).map Block.indent := by
  have h := congrArg (List.map Prod.fst) (map_fenced_scanLines_crlf text)
  rw [List.map_map, List.map_map, List.map_map] at h
  exact h

theorem bodies_crlf (text : Bytes) : bodies (crlf text) = (bodies text).map crlf := by
  have h := congrArg (List.map Prod.snd) (map_fenced_scanLines_crlf text)
  rw [List.map_map, List.map_map, List.map_map] at h
  rw [bodies, bodies, List.map_map]
  exact h

/-- A fence is too deep with and without the carriage returns. -/
theorem map_indent_tooDeep?_crlf (options : Options) (text : Bytes) :
    (tooDeep? options (scanLines (crlf text))).map Block.indent =
      (tooDeep? options (scanLines text)).map Block.indent := by
  have hindents : ∀ blocks : List Block, (tooDeep? options blocks).map Block.indent =
      (blocks.map Block.indent).find? fun n => options.limits.maxFenceIndent.toNat < n := by
    intro blocks
    rw [List.find?_map]
    rfl
  rw [hindents, hindents, map_indent_scanLines_crlf]

end Blocks

section Bodies

variable (policy : Policy)

theorem codeIndent_eq_of_contents {lines lines' : List BodyLine}
    (h : lines'.map BodyLine.content = lines.map BodyLine.content) :
    codeIndent lines' = codeIndent lines := by
  have hcontents : ∀ ls : List BodyLine,
      (ls.filter BodyLine.isCode).map (fun l => leadingSpaces l.content) =
        ((ls.map BodyLine.content).filter fun c => (LineKind.ofContent c).isCode).map
          leadingSpaces := by
    intro ls
    rw [List.filter_map, List.map_map]
    rfl
  rw [codeIndent, hcontents, h, ← hcontents, ← codeIndent]

/-- The new content of a line hangs on contents only. -/
theorem Policy.content_eq_of_contents (n : Nat) {lines lines' : List BodyLine}
    (h : lines'.map BodyLine.content = lines.map BodyLine.content) {l l' : BodyLine}
    (hl : l'.content = l.content) : policy.content n lines' l' = policy.content n lines l := by
  cases policy with
  | changedLines =>
      change l'.moved n = l.moved n
      rw [BodyLine.moved, BodyLine.kind, hl, BodyLine.moved, BodyLine.kind]
  | baseline =>
      change l'.shifted _ = l.shifted _
      rw [codeIndent_eq_of_contents h, BodyLine.shifted, BodyLine.isCode, BodyLine.kind, hl,
        BodyLine.shifted, BodyLine.isCode, BodyLine.kind]

theorem Policy.reline_crlf (n : Nat) {body : List Bytes} (hbody : IsCut body) :
    policy.reline n (body.map crlf) = (policy.reline n body).map crlf := by
  have hcontents : ((body.map crlf).map BodyLine.ofText).map BodyLine.content =
      (body.map BodyLine.ofText).map BodyLine.content := by
    rw [List.map_map, List.map_map, List.map_map]
    apply List.map_congr_left
    intro text htext
    exact hbody.lineContent_crlf_of_mem htext
  have hline : ∀ text ∈ body,
      (policy.line n ((body.map crlf).map .ofText) (.ofText (crlf text))).text =
        crlf (policy.line n (body.map .ofText) (.ofText text)).text := by
    intro text htext
    have hcontent : policy.content n ((body.map crlf).map .ofText) (.ofText (crlf text)) =
        policy.content n (body.map .ofText) (.ofText text) :=
      policy.content_eq_of_contents n hcontents (hbody.lineContent_crlf_of_mem htext)
    have hnewline : newline ∉ policy.content n (body.map .ofText) (.ofText text) := by
      rw [(policy.respaces_content n _ _).mem_iff (by decide)]
      exact hbody.newline_not_mem_lineContent text htext
    change policy.content n _ (.ofText (crlf text)) ++ lineEnding (crlf text) =
      crlf (policy.content n _ (.ofText text) ++ lineEnding text)
    rw [hcontent, lineEnding_crlf, crlf_append, crlf_of_not_mem hnewline]
  calc policy.reline n (body.map crlf)
      = body.map fun text =>
          (policy.line n ((body.map crlf).map .ofText) (.ofText (crlf text))).text := List.map_map
    _ = body.map fun text => crlf (policy.line n (body.map .ofText) (.ofText text)).text :=
          List.map_congr_left hline
    _ = (policy.reline n body).map crlf := List.map_map.symm

theorem realignLines_crlf {parts : List Part} (hcut : IsCut (partLines parts)) :
    realignLines policy (parts.map (Part.map crlf)) = (realignLines policy parts).map crlf := by
  induction parts with
  | nil => rfl
  | cons p parts ih =>
      rw [List.map_cons, realignLines_cons, ih hcut.of_cons_parts, realignLines_cons,
        List.map_append]
      congr 1
      cases p with
      | line text => rfl
      | block indent opening body closing =>
          have hbody := policy.reline_crlf indent (hcut.body_of_mem List.mem_cons_self)
          rw [← Part.lines_map, Part.map, Part.realign, hbody]
          rfl

theorem text_formatted_crlf (text : Bytes) :
    (formatted policy (crlf text) (scanLines (crlf text))).text =
      crlf (formatted policy text (scanLines text)).text := by
  obtain ⟨parts, hparts, hlines⟩ := exists_outline (splitLines text)
  obtain ⟨hcrlf, hcrlflines⟩ := hparts.map_crlf hlines
  rw [hcrlf.text_formatted hcrlflines, hparts.text_formatted hlines, crlf_flatten,
    realignLines_crlf policy (isCut_partLines hlines)]

end Bodies

namespace Report.Accounts

variable {r s : Report} {old new : Bytes}

/-- There is one report of two documents. -/
theorem unique (hr : r.Accounts old new) (hs : s.Accounts old new)
    (hpass : r.passthrough = s.passthrough) : r = s := by
  have hfound := hr.blocksFound_eq.trans hs.blocksFound_eq.symm
  have hblocks := hr.blocksChanged_eq.trans hs.blocksChanged_eq.symm
  have hlines := hr.linesChanged_eq.trans hs.linesChanged_eq.symm
  cases r
  cases s
  rw [Report.mk.injEq]
  exact ⟨hfound, hblocks, hlines, hpass⟩

/-- What a report says of two documents it also says of them with their carriage returns. -/
theorem crlf (h : r.Accounts old new) : r.Accounts (crlf old) (crlf new) where
  blocksFound_eq := by rw [length_scanLines_crlf, h.blocksFound_eq]
  linesChanged_eq := by
    rw [splitLines_crlf, splitLines_crlf, differences_map_of_injective crlf_injective,
      h.linesChanged_eq]
  blocksChanged_eq := by
    rw [bodies_crlf, bodies_crlf, differences_map_of_injective crlf_injective,
      h.blocksChanged_eq]
  changed_iff := h.changed_iff.trans crlf_injective.ne_iff.symm

end Report.Accounts

theorem formatted_crlf {options : Options} {text : Bytes}
    (hdeep : tooDeep? options (scanLines text) = none)
    (hdeep' : tooDeep? options (scanLines (crlf text)) = none) :
    formatted options.policy (crlf text) (scanLines (crlf text)) =
      (formatted options.policy text (scanLines text)).crlf := by
  have htext := text_formatted_crlf options.policy text
  have haccounts := accounts_formatted hdeep'
  rw [htext] at haccounts
  have hreport := haccounts.unique (accounts_formatted hdeep).crlf rfl
  rw [Formatted.crlf, ← htext, ← hreport]

/-- The style of the line endings has no influence on a pass that goes line by line: with a
carriage return before each newline it answers the same document with the same carriage
returns and the same report, or it fails on the same fence. -/
theorem format_crlf {options : Options} (hscanner : options.scanner = .lines) {text : Bytes}
    (hlength : (crlf text).length ≤ options.limits.maxDocumentBytes.toNat) :
    format options (crlf text) = (format options text).map Formatted.crlf := by
  have hdeep := map_indent_tooDeep?_crlf options text
  rw [format_eq_of_lines hscanner hlength,
    format_eq_of_lines hscanner (Nat.le_trans (length_le_length_crlf text) hlength)]
  cases hold : tooDeep? options (scanLines text) with
  | none =>
      rw [hold, Option.map_none, Option.map_eq_none_iff] at hdeep
      rw [hdeep, formatted_crlf hold hdeep]
      rfl
  | some b =>
      rw [hold, Option.map_some, Option.map_eq_some_iff] at hdeep
      obtain ⟨b', hnew, hindent⟩ := hdeep
      rw [hnew]
      dsimp only
      rw [hindent]
      rfl

/-- A block whose lines end in all ways: in one carriage return and in two, in none, and the
last one in no newline. The line that moves first has a carriage return inside. -/
def mixedEndings : Bytes :=
  spaces 2 ++ ticks ++ tag ++ [carriageReturn, newline] ++
    [minus, 0x61, carriageReturn, 0x62, carriageReturn, carriageReturn, newline] ++ [newline] ++
    [plus, 0x63, newline] ++ spaces 2 ++ ticks ++ [carriageReturn]

def mixedEndingsFormatted : Bytes :=
  spaces 2 ++ ticks ++ tag ++ [carriageReturn, newline] ++ spaces 2 ++
    [minus, 0x61, carriageReturn, 0x62, carriageReturn, carriageReturn, newline] ++ [newline] ++
    spaces 2 ++ [plus, 0x63, newline] ++ spaces 2 ++ ticks ++ [carriageReturn]

theorem format_crlf_mixedEndings :
    format {} mixedEndings = .ok ⟨mixedEndingsFormatted, ⟨1, 1, 2, false⟩⟩ ∧
      format {} (crlf mixedEndings) = .ok ⟨crlf mixedEndingsFormatted, ⟨1, 1, 2, false⟩⟩ ∧
      format { limits := { maxFenceIndent := 1 } } (crlf mixedEndings) =
        .error (.indentTooLarge ⟨2, 1⟩) := by
  have hformat : format {} mixedEndings = .ok ⟨mixedEndingsFormatted, ⟨1, 1, 2, false⟩⟩ := by
    decide +kernel
  have hrefused : format { limits := { maxFenceIndent := 1 } } mixedEndings =
      .error (.indentTooLarge ⟨2, 1⟩) := by
    decide +kernel
  have hlength : (crlf mixedEndings).length ≤ ({} : Options).limits.maxDocumentBytes.toNat := by
    decide
  have hlength' : (crlf mixedEndings).length ≤
      ({ limits := { maxFenceIndent := 1 } } : Options).limits.maxDocumentBytes.toNat := hlength
  refine ⟨hformat, ?_, ?_⟩
  · rw [format_crlf rfl hlength, hformat]
    rfl
  · rw [format_crlf rfl hlength', hrefused]
    rfl

end FencedDiff
