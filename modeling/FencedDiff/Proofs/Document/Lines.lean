import FencedDiff.Proofs.Document.Outcome
import FencedDiff.Proofs.Fence.Pairing

/-!
# Lines of documents and of bodies

The lines of a document tile it: their spans follow each other from one end of the text to the
other, each line is what its span names, and only its last byte is a newline (`Tiles`). There is
only one such list of lines (`Tiles.eq_documentLines`).

The body of a block is cut out of the document first and into lines then, without its
surroundings. It has the lines of the document nevertheless, because fences are whole lines: the
body is made of the lines between them (`splitLines_slice_body`). The main statement is
`lines_tile_and_agree`.
-/

namespace FencedDiff

open Bytes

/-- Spans that are not empty and follow each other from `start` to `stop`. -/
inductive Contiguous : Nat → Nat → List Span → Prop
  | nil (place : Nat) : Contiguous place place []
  | cons {start middle stop : Nat} {spans : List Span} (hlt : start < middle)
      (hrest : Contiguous middle stop spans) : Contiguous start stop (⟨start, middle⟩ :: spans)

/-- The lines are numbered in order and lie side by side in the text. Each has the bytes that
its span names, of which none but the last is a newline, and only the last line may be without
one. -/
structure Tiles (text : Bytes) (lines : List Line) : Prop where
  numbers : lines.map Line.number = List.range lines.length
  contiguous : Contiguous 0 text.length (lines.map Line.span)
  slices : ∀ l ∈ lines, l.span.slice text = l.text
  flatten : (lines.map Line.text).flatten = text
  newline_last : ∀ l ∈ lines, newline ∉ l.text.dropLast
  ends : ∀ l ∈ lines.dropLast, l.text.getLast? = some newline

theorem map_number_placeLines (number start : Nat) (lines : List Bytes) :
    (placeLines number start lines).map Line.number = List.range' number lines.length := by
  induction lines generalizing number start with
  | nil => rfl
  | cons text lines ih =>
      rw [placeLines, List.map_cons, ih, List.length_cons, List.range'_succ]

theorem map_text_placeLines (number start : Nat) (lines : List Bytes) :
    (placeLines number start lines).map Line.text = lines := by
  induction lines generalizing number start with
  | nil => rfl
  | cons text lines ih => rw [placeLines, List.map_cons, ih]

theorem contiguous_placeLines (number start : Nat) {lines : List Bytes}
    (hne : ∀ l ∈ lines, l ≠ []) :
    Contiguous start (start + lines.flatten.length)
      ((placeLines number start lines).map Line.span) := by
  induction lines generalizing number start with
  | nil => exact .nil start
  | cons text lines ih =>
      rw [List.forall_mem_cons] at hne
      have hrest := ih (number + 1) (start + text.length) hne.2
      rw [Nat.add_assoc, ← List.length_append, ← List.flatten_cons] at hrest
      exact .cons (Nat.lt_add_of_pos_right (List.length_pos_of_ne_nil hne.1)) hrest

theorem EndsInNewline.not_mem_dropLast {line : Bytes} (h : EndsInNewline line) :
    newline ∉ line.dropLast := by
  obtain ⟨body, hbody, rfl⟩ := h
  rwa [List.dropLast_concat]

namespace IsCut

variable {lines : List Bytes} (h : IsCut lines)
include h

theorem not_mem_dropLast : ∀ l ∈ lines, newline ∉ l.dropLast := by
  induction h with
  | nil => simp
  | last h hne =>
      rw [List.forall_mem_singleton]
      exact fun hmem => h ((List.dropLast_sublist _).subset hmem)
  | cons h hrest ih =>
      rw [List.forall_mem_cons]
      exact ⟨h.not_mem_dropLast, ih⟩

theorem getLast?_of_mem_dropLast : ∀ l ∈ lines.dropLast, l.getLast? = some newline := by
  intro l hl
  have hne : lines ≠ [] := by
    rintro rfl
    cases hl
  rw [← List.dropLast_append_getLast hne] at h
  exact ((append_cons_iff.1 h).1 l hl).getLast?

end IsCut

theorem map_text_documentLines (text : Bytes) :
    (documentLines text).map Line.text = splitLines text := map_text_placeLines 0 0 _

theorem slice_of_mem_documentLines {text : Bytes} {l : Line} (h : l ∈ documentLines text) :
    l.span.slice text = l.text := by
  obtain ⟨hline, hspan⟩ := mem_documentLines h
  obtain ⟨before, after, hlines, hbefore⟩ := exists_append_of_getElem? hline
  have htext : text = before.flatten ++ (l.text ++ after.flatten) := by
    rw [← flatten_splitLines text, hlines, List.flatten_append, List.flatten_cons]
  have hstart : l.span.start = before.flatten.length := by
    rw [hspan]
    exact lineStart_eq hlines hbefore
  have hstop : l.span.stop = before.flatten.length + l.text.length := by
    rw [hspan]
    have hnext : lineStart text (l.number + 1) = (before ++ [l.text]).flatten.length :=
      lineStart_eq (b := after) (by simp [hlines]) (by simp [hbefore])
    simpa using hnext
  exact slice_eq_of_append htext hstart hstop

theorem tiles_documentLines (text : Bytes) : Tiles text (documentLines text) := by
  obtain ⟨hcut, hflat⟩ := isCut_splitLines text
  have htexts := map_text_documentLines text
  constructor
  · have hlength : (documentLines text).length = (splitLines text).length := by
      rw [← htexts, List.length_map]
    rw [hlength, List.range_eq_range']
    exact map_number_placeLines 0 0 _
  · have h := contiguous_placeLines 0 0 hcut.ne_nil
    rwa [Nat.zero_add, hflat] at h
  · exact fun l hl => slice_of_mem_documentLines hl
  · rw [htexts, hflat]
  · intro l hl
    exact hcut.not_mem_dropLast _ (htexts ▸ List.mem_map_of_mem hl)
  · intro l hl
    apply hcut.getLast?_of_mem_dropLast
    rw [← htexts, ← List.map_dropLast]
    exact List.mem_map_of_mem hl

theorem Contiguous.bounds {start stop : Nat} {spans : List Span}
    (h : Contiguous start stop spans) :
    start ≤ stop ∧ ∀ s ∈ spans, s.start < s.stop ∧ s.stop ≤ stop := by
  induction h with
  | nil place => simp
  | cons hlt hrest ih =>
      rw [List.forall_mem_cons]
      exact ⟨by omega, ⟨hlt, ih.1⟩, ih.2⟩

/-- Lines that are numbered in order and lie side by side are told by their texts. -/
theorem eq_placeLines {number start stop : Nat} {lines : List Line}
    (hnumbers : lines.map Line.number = List.range' number lines.length)
    (hspans : Contiguous start stop (lines.map Line.span))
    (htexts : ∀ l ∈ lines, l.text.length = l.span.length) :
    lines = placeLines number start (lines.map Line.text) := by
  induction lines generalizing number start with
  | nil => rfl
  | cons l lines ih =>
      rw [List.map_cons, List.length_cons, List.range'_succ, List.cons.injEq] at hnumbers
      rw [List.forall_mem_cons] at htexts
      obtain ⟨first, span, text⟩ := l
      rw [List.map_cons] at hspans
      cases hspans with
      | @cons _ middle _ _ hlt hrest =>
          have hstop : start + text.length = middle := by
            rw [htexts.1, Span.length]
            exact Nat.add_sub_cancel' (Nat.le_of_lt hlt)
          rw [List.map_cons, placeLines, hstop, ← ih hnumbers.2 hrest htexts.2, ← hnumbers.1]

theorem isCut_of_forall {lines : List Bytes} (hne : ∀ l ∈ lines, l ≠ [])
    (hlast : ∀ l ∈ lines, newline ∉ l.dropLast)
    (hends : ∀ l ∈ lines.dropLast, l.getLast? = some newline) : IsCut lines := by
  induction lines with
  | nil => exact .nil
  | cons l lines ih =>
      rw [List.forall_mem_cons] at hne hlast
      have hend : l.getLast? = some newline → EndsInNewline l := fun h =>
        ⟨l.dropLast, hlast.1, (List.dropLast_append_getLast? _ h).symm⟩
      cases lines with
      | nil =>
          by_cases h : l.getLast? = some newline
          · exact .cons (hend h) .nil
          · refine .last (fun hmem => ?_) hne.1
            rw [← List.dropLast_append_getLast hne.1, List.mem_append, List.mem_singleton] at hmem
            rcases hmem with hmem | heq
            · exact hlast.1 hmem
            · exact h (by rw [List.getLast?_eq_some_getLast hne.1, ← heq])
      | cons next lines =>
          rw [List.dropLast_cons_cons, List.forall_mem_cons] at hends
          exact .cons (hend hends.1) (ih hne.2 hlast.2 hends.2)

theorem Tiles.eq_documentLines {text : Bytes} {lines : List Line} (h : Tiles text lines) :
    lines = documentLines text := by
  have hbounds := (h.contiguous.bounds).2
  rw [List.forall_mem_map] at hbounds
  have hlength : ∀ l ∈ lines, l.text.length = l.span.length := by
    intro l hl
    rw [← h.slices l hl, Span.length_slice (hbounds l hl).2]
  have hcut : IsCut (lines.map Line.text) := by
    apply isCut_of_forall
    · rw [List.forall_mem_map]
      intro l hl
      rw [← List.length_pos_iff_ne_nil, hlength l hl]
      exact Nat.sub_pos_of_lt (hbounds l hl).1
    · rw [List.forall_mem_map]
      exact h.newline_last
    · rw [← List.map_dropLast, List.forall_mem_map]
      exact h.ends
  rw [documentLines, ← h.flatten, hcut.splitLines_flatten]
  exact eq_placeLines (List.range_eq_range' ▸ h.numbers) h.contiguous hlength

/-- Nothing of a body is lost when it is cut into contents and endings. -/
theorem flatten_bodyLines (body : Bytes) :
    ((bodyLines body).map fun l => l.content ++ l.ending).flatten = body := by
  have htexts : (bodyLines body).map (fun l => l.content ++ l.ending) = splitLines body := by
    rw [bodyLines, List.map_map]
    exact (List.map_congr_left fun line _ => lineContent_append_lineEnding line).trans
      (List.map_id _)
  rw [htexts, flatten_splitLines]

/-- The body of a block is made of the lines between its fences. -/
theorem splitLines_slice_body {text : Bytes} {b : Block} (h : b ∈ scanLines text) :
    splitLines (b.body.slice text) = (splitLines text).extract (b.startLine + 1) b.endLine ∧
      b.startLine + 1 + (splitLines (b.body.slice text)).length = b.endLine := by
  obtain ⟨before, opening, body, closing, after, hlines, hb, _⟩ := exists_lines_of_mem_scanLines h
  have hcut : IsCut (before ++ opening :: (body ++ closing :: after)) :=
    hlines ▸ (isCut_splitLines text).1
  have htext : text =
      before.flatten ++ (opening ++ (body.flatten ++ (closing :: after).flatten)) := by
    rw [← flatten_splitLines text, hlines]
    simp
  have hbody : splitLines (b.body.slice text) = body := by
    rw [hb, htext, slice_body_blockAt, hcut.of_append.tail.init.splitLines_flatten]
  have hstart : b.startLine = before.length := by rw [hb, blockAt]
  have hend : b.endLine = before.length + 1 + body.length := by rw [hb, blockAt]
  rw [hbody, hstart, hend]
  refine ⟨?_, rfl⟩
  rw [hlines, List.extract_eq_take_drop, List.drop_length_add_append, List.drop_succ_cons,
    List.drop_zero, Nat.add_sub_cancel_left, List.take_left]

/-- The lines of a document tile it, and no other lines do. Contents and endings make up a body
again, and the lines of a block's body are the document's lines between its fences, cut into the
same contents and endings. -/
theorem lines_tile_and_agree (text : Bytes) :
    Tiles text (documentLines text) ∧
    (∀ lines, Tiles text lines → lines = documentLines text) ∧
    (∀ body, ((bodyLines body).map fun l => l.content ++ l.ending).flatten = body) ∧
    ∀ b ∈ scanLines text,
      b.startLine < b.endLine ∧
      (bodyLines (b.body.slice text)).length = b.endLine - b.startLine - 1 ∧
      bodyLines (b.body.slice text) =
        ((documentLines text).extract (b.startLine + 1) b.endLine).map
          fun l => ⟨l.content, lineEnding l.text⟩ := by
  refine ⟨tiles_documentLines text, fun _ => Tiles.eq_documentLines, flatten_bodyLines,
    fun b hb => ?_⟩
  obtain ⟨hlines, hlength⟩ := splitLines_slice_body hb
  refine ⟨by omega, ?_, ?_⟩
  · rw [bodyLines, List.length_map]
    omega
  · rw [bodyLines, hlines, ← map_text_documentLines]
    simp only [List.extract_eq_take_drop, ← List.map_drop, ← List.map_take, List.map_map]
    rfl

/-- A block with all kinds of line endings in its body, and none behind its closing fence. -/
def unevenEndings : Bytes :=
  0x78 :: newline :: ticks ++ tag ++ [carriageReturn, newline, minus, carriageReturn, newline,
    newline, plus, carriageReturn, carriageReturn, newline] ++ ticks

theorem lines_tile_and_agree_unevenEndings :
    let block : Block := ⟨⟨2, 22⟩, ⟨11, 19⟩, 1, 5, 0⟩
    block ∈ scanLines unevenEndings ∧
      bodyLines (block.body.slice unevenEndings) =
        [⟨[minus], [carriageReturn, newline]⟩, ⟨[], [newline]⟩,
          ⟨[plus], [carriageReturn, carriageReturn, newline]⟩] := by
  intro block
  have hblock : block ∈ scanLines unevenEndings := by decide
  obtain ⟨_, _, hbody⟩ := (lines_tile_and_agree unevenEndings).2.2.2 block hblock
  exact ⟨hblock, hbody.trans (by decide)⟩

end FencedDiff
