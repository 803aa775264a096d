import FencedDiff.Fence.LineScan
import FencedDiff.Proofs.Text.Cut
import FencedDiff.Proofs.Text.Ending

/-!
# Outlines

An outline reads the lines of a document as a list of parts: single lines
outside of blocks, and blocks with their two fences and the lines between them.
What makes it an outline is a condition on the lines alone: a block opens with
an opening fence and ends with the first closing fence after it, and an opening
fence outside of blocks has no closing fence after it.

Every list of lines has an outline (`exists_outline`), and the line scanner
finds its blocks, each at its place (`scanLines_eq_placeParts`). Scanning,
splicing and the comparison of two documents all go by induction on an outline,
with the number and the start of the current part carried along, so that no
line is looked up by its index.
-/

namespace FencedDiff

open Bytes

/-- A stretch of a document. -/
inductive Part where
  /-- A line outside of blocks. -/
  | line (text : Bytes)
  /-- A block: the opening fence with its indentation, the lines of the body and
  the closing fence. -/
  | block (indent : Nat) (opening : Bytes) (body : List Bytes) (closing : Bytes)

def Part.lines : Part → List Bytes
  | .line text => [text]
  | .block _ opening body closing => opening :: (body ++ [closing])

def partLines (parts : List Part) : List Bytes := parts.flatMap Part.lines

@[simp] theorem partLines_nil : partLines [] = [] := rfl

@[simp] theorem partLines_cons (p : Part) (parts : List Part) :
    partLines (p :: parts) = p.lines ++ partLines parts := rfl

theorem isCut_partLines {parts : List Part} {text : Bytes}
    (h : partLines parts = splitLines text) : IsCut (partLines parts) :=
  h ▸ (isCut_splitLines text).1

theorem flatten_partLines {parts : List Part} {text : Bytes}
    (h : partLines parts = splitLines text) : (partLines parts).flatten = text := by
  rw [h, flatten_splitLines]

theorem IsCut.of_cons_parts {p : Part} {parts : List Part} (h : IsCut (partLines (p :: parts))) :
    IsCut (partLines parts) := by
  rw [partLines_cons] at h
  exact h.of_append

/-- Parts that read their lines as the fences say. -/
inductive IsOutline : List Part → Prop
  | nil : IsOutline []
  | line {text : Bytes} {parts : List Part}
      (hopen : ∀ n, signature text = some (.opening n) →
        ∀ l ∈ partLines parts, signature l ≠ some .closing)
      (hparts : IsOutline parts) : IsOutline (.line text :: parts)
  | block {indent : Nat} {opening : Bytes} {body : List Bytes} {closing : Bytes}
      {parts : List Part}
      (hopening : signature opening = some (.opening indent))
      (hbody : ∀ l ∈ body, signature l ≠ some .closing)
      (hclosing : signature closing = some .closing)
      (hparts : IsOutline parts) :
      IsOutline (.block indent opening body closing :: parts)

/-- Either no line of a list is a closing fence, or there is a first one. -/
theorem closing_first (lines : List Bytes) :
    (∀ l ∈ lines, signature l ≠ some .closing) ∨
      ∃ body closing rest, lines = body ++ closing :: rest ∧
        (∀ l ∈ body, signature l ≠ some .closing) ∧
        signature closing = some .closing := by
  cases h : lines.find? fun l => closes (signature l) with
  | none =>
      left
      simpa using h
  | some closing =>
      obtain ⟨hclosing, body, rest, hlines, hbody⟩ :=
        List.find?_eq_some_iff_append.1 h
      right
      refine ⟨body, closing, rest, hlines, ?_, by simpa using hclosing⟩
      intro l hl
      simpa [← closes_eq_true_iff] using hbody l hl

theorem exists_outline (lines : List Bytes) :
    ∃ parts, IsOutline parts ∧ partLines parts = lines := by
  -- a block takes several lines, so the length goes down rather than the list
  induction hn : lines.length using Nat.strongRecOn generalizing lines with
  | ind n ih =>
      cases lines with
      | nil => exact ⟨[], .nil, rfl⟩
      | cons text rest =>
          have hrest : rest.length < n := by simp [← hn]
          cases hsig : opens (signature text) with
          | none =>
              obtain ⟨parts, hparts, hlines⟩ := ih _ hrest rest rfl
              refine ⟨.line text :: parts, .line ?_ hparts, by simp [Part.lines, hlines]⟩
              intro m hm
              simp [hm, opens] at hsig
          | some indent =>
              rw [opens_eq_some_iff] at hsig
              rcases closing_first rest with
                hnone | ⟨body, closing, after, rfl, hbody, hclosing⟩
              · obtain ⟨parts, hparts, hlines⟩ := ih _ hrest rest rfl
                exact ⟨.line text :: parts, .line (fun _ _ => hlines ▸ hnone) hparts,
                  by simp [Part.lines, hlines]⟩
              · have hafter : after.length < n := by
                  rw [List.length_append, List.length_cons] at hrest
                  omega
                obtain ⟨parts, hparts, hlines⟩ := ih _ hafter after rfl
                exact ⟨.block indent text body closing :: parts,
                  .block hsig hbody hclosing hparts, by simp [Part.lines, hlines]⟩

/-- A block that starts on line `number`, at byte `start`. -/
def blockAt (number start indent : Nat) (opening : Bytes) (body : List Bytes)
    (closing : Bytes) : Block where
  span := ⟨start, start + opening.length + body.flatten.length + closing.length⟩
  body := ⟨start + opening.length, start + opening.length + body.flatten.length⟩
  startLine := number
  endLine := number + 1 + body.length
  indent := indent

/-- The block of a part that starts on line `number`, at byte `start`. -/
def Part.place? (number start : Nat) : Part → Option Block
  | .line _ => none
  | .block indent opening body closing =>
      some (blockAt number start indent opening body closing)

/-- The blocks of parts, the first of which starts on line `number`, at byte
`start`. -/
def placeParts (number start : Nat) : List Part → List Block
  | [] => []
  | p :: parts => (p.place? number start).toList ++
      placeParts (number + p.lines.length) (start + p.lines.flatten.length) parts

@[simp] theorem placeParts_nil (number start : Nat) :
    placeParts number start [] = [] := rfl

theorem placeParts_cons (number start : Nat) (p : Part) (parts : List Part) :
    placeParts number start (p :: parts) =
      (p.place? number start).toList ++
        placeParts (number + p.lines.length) (start + p.lines.flatten.length) parts :=
  rfl

theorem IsOutline.placeParts_eq_nil {parts : List Part} (h : IsOutline parts)
    (hnone : ∀ l ∈ partLines parts, signature l ≠ some .closing)
    (number start : Nat) : placeParts number start parts = [] := by
  induction h generalizing number start with
  | nil => rfl
  | line hopen hparts ih =>
      rw [partLines_cons, List.forall_mem_append] at hnone
      rw [placeParts_cons, ih hnone.2]
      rfl
  | @block _ _ _ closing _ hopening hbody hclosing hparts ih =>
      exact absurd hclosing (hnone closing (by simp [Part.lines]))

namespace LineScanner

/-- Inside a block the scanner waits for a closing fence. -/
theorem pushAll_of_inBlock {s : LineScanner} {opening : Span} {line n : Nat}
    (hs : s.state = .inBlock opening line n) {lines : List FenceLine}
    (h : ∀ l ∈ lines, l.signature ≠ some .closing) : s.pushAll lines = s := by
  induction lines with
  | nil => rfl
  | cons l lines ih =>
      rw [List.forall_mem_cons] at h
      have hpush : s.push l = s := by
        rw [push, hs]
        simp [h.1]
      rw [pushAll_cons, hpush, ih h.2]

end LineScanner

@[simp] theorem signature_fenceLine (number : Nat) (span : Span) (text : Bytes) :
    (Line.fenceLine ⟨number, span, text⟩).signature = signature text := by
  rw [Line.fenceLine, Line.content, signature, signature, lineContent_lineContent]

/-- The signatures of placed lines are those of their texts. -/
theorem signature_ne_closing_of_mem_placeLines {lines : List Bytes}
    (h : ∀ l ∈ lines, signature l ≠ some .closing) (number start : Nat) :
    ∀ l ∈ (placeLines number start lines).map Line.fenceLine,
      l.signature ≠ some .closing := by
  induction lines generalizing number start with
  | nil => simp
  | cons text lines ih =>
      rw [List.forall_mem_cons] at h
      rw [placeLines, List.map_cons, List.forall_mem_cons, signature_fenceLine]
      exact ⟨h.1, ih h.2 _ _⟩

/-- Outside of blocks, the scanner finds the blocks of an outline. -/
theorem IsOutline.blocks_pushAll {parts : List Part} (h : IsOutline parts)
    {s : LineScanner} (hs : s.state = .outside) (number start : Nat) :
    (s.pushAll ((placeLines number start (partLines parts)).map
        Line.fenceLine)).blocks.toList =
      s.blocks.toList ++ placeParts number start parts := by
  induction h generalizing s number start with
  | nil => simp
  | @line text parts hopen hparts ih =>
      rw [partLines_cons, Part.lines, List.singleton_append, placeLines, List.map_cons,
        LineScanner.pushAll_cons, placeParts_cons]
      cases hsig : opens (signature text) with
      | none =>
          have hpush : s.push (Line.fenceLine
              ⟨number, ⟨start, start + text.length⟩, text⟩) = s := by
            rw [LineScanner.push, hs, signature_fenceLine]
            simp only [hsig]
          rw [hpush, ih hs]
          simp [Part.place?, Part.lines]
      | some n =>
          -- the scanner enters a block that it never leaves
          have hnone := hopen n (opens_eq_some_iff.1 hsig)
          have hpush : s.push (Line.fenceLine
              ⟨number, ⟨start, start + text.length⟩, text⟩) =
                { s with state := .inBlock ⟨start, start + text.length⟩ number n } := by
            rw [LineScanner.push, hs, signature_fenceLine]
            simp only [hsig]
            rfl
          rw [hpush, LineScanner.pushAll_of_inBlock rfl
            (signature_ne_closing_of_mem_placeLines hnone _ _),
            hparts.placeParts_eq_nil hnone]
          simp [Part.place?]
  | @block n opening body closing parts hopening hbody hclosing hparts ih =>
      have hopened : s.push (Line.fenceLine
          ⟨number, ⟨start, start + opening.length⟩, opening⟩) =
            { s with state := .inBlock ⟨start, start + opening.length⟩ number n } := by
        rw [LineScanner.push, hs, signature_fenceLine]
        simp only [hopening, opens]
        rfl
      rw [partLines_cons, Part.lines, List.cons_append, placeLines, List.map_cons,
        LineScanner.pushAll_cons, hopened, List.append_assoc, placeLines_append,
        List.map_append, LineScanner.pushAll_append,
        LineScanner.pushAll_of_inBlock rfl
          (signature_ne_closing_of_mem_placeLines hbody _ _),
        List.singleton_append, placeLines, List.map_cons, LineScanner.pushAll_cons]
      rw [LineScanner.push, signature_fenceLine]
      simp only [hclosing, closes, if_true]
      rw [ih rfl, placeParts_cons]
      simp [Part.place?, blockAt, Part.lines, Line.fenceLine, Nat.add_assoc, Nat.add_comm 1]

/-- The line scanner finds the blocks of any outline of a document. -/
theorem IsOutline.scanLines_eq_placeParts {parts : List Part} (h : IsOutline parts)
    {text : Bytes} (hlines : partLines parts = splitLines text) :
    scanLines text = placeParts 0 0 parts := by
  rw [scanLines, lineScanner, LineScanner.finish, documentLines, ← hlines,
    h.blocks_pushAll rfl]
  rfl

end FencedDiff
