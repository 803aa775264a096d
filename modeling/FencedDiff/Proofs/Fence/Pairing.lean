import FencedDiff.Proofs.Fence.Grammar
import FencedDiff.Proofs.Fence.Placement
import FencedDiff.Proofs.Text.Boundary

/-!
# How fences pair up

The blocks of a document are described by line numbers, without the scanner: an
opening fence pairs with the first closing fence after it, unless it lies in a
block that began before. The line scanner finds exactly the blocks between such
pairs (`mem_scanLines_iff`). The description mentions the blocks on both sides,
but only those that begin on an earlier line, so it settles the blocks one by
one from the top of the document.

The lines that are numbered are those of the one list that the text can be cut into
behind its newlines (`eq_splitLines_iff`), and how the scanner comes by them does not
matter.
-/

namespace FencedDiff

open Bytes

/-- Line `i` of the text is an opening fence indented by `n`. -/
def OpensAt (text : Bytes) (i n : Nat) : Prop :=
  ∃ line, (splitLines text)[i]? = some line ∧ IsOpening n line

/-- Line `i` of the text is a closing fence. -/
def ClosesAt (text : Bytes) (i : Nat) : Prop :=
  ∃ line, (splitLines text)[i]? = some line ∧ IsClosing line

/-- Line `j` is the first closing fence after line `i`. -/
structure ClosesFirst (text : Bytes) (i j : Nat) : Prop where
  lt : i < j
  closes : ClosesAt text j
  first : ∀ k, i < k → k < j → ¬ ClosesAt text k

/-- The number of bytes before line `i` of the text. -/
def lineStart (text : Bytes) (i : Nat) : Nat := ((splitLines text).take i).flatten.length

/-- The block between the fences on lines `i` and `j`: its span has both lines,
its body the lines between them. -/
def blockBetween (text : Bytes) (i j n : Nat) : Block where
  span := ⟨lineStart text i, lineStart text (j + 1)⟩
  body := ⟨lineStart text (i + 1), lineStart text j⟩
  startLine := i
  endLine := j
  indent := n

/-- On the lines of a text, the closing fences of the grammar are those that the
scanners see. -/
theorem signature_eq_closing_iff_of_mem {text line : Bytes} (h : line ∈ splitLines text) :
    signature line = some .closing ↔ IsClosing line := by
  obtain ⟨before, after, hlines⟩ := List.append_of_mem h
  have hcut : IsCut (before ++ line :: after) := hlines ▸ (isCut_splitLines text).1
  obtain ⟨run, stop, hrun, rfl, hstop⟩ := hcut.of_append.exists_run
  exact signature_eq_closing_iff hrun (hstop.imp_right And.left)

theorem closesAt_iff {text : Bytes} {i : Nat} :
    ClosesAt text i ↔
      ∃ line, (splitLines text)[i]? = some line ∧ signature line = some .closing := by
  constructor
  · rintro ⟨line, hline, h⟩
    exact ⟨line, hline,
      (signature_eq_closing_iff_of_mem (List.mem_of_getElem? hline)).2 h⟩
  · rintro ⟨line, hline, h⟩
    exact ⟨line, hline,
      (signature_eq_closing_iff_of_mem (List.mem_of_getElem? hline)).1 h⟩

theorem exists_append_of_getElem? {α : Type} {xs : List α} {i : Nat} {x : α}
    (h : xs[i]? = some x) : ∃ before after, xs = before ++ x :: after ∧ before.length = i := by
  obtain ⟨hi, rfl⟩ := List.getElem?_eq_some_iff.1 h
  refine ⟨xs.take i, xs.drop (i + 1), ?_, ?_⟩
  · rw [← List.drop_eq_getElem_cons hi, List.take_append_drop]
  · rw [List.length_take, Nat.min_eq_left (Nat.le_of_lt hi)]

theorem lineStart_eq {text : Bytes} {a b : List Bytes} (h : splitLines text = a ++ b)
    {i : Nat} (hi : a.length = i) : lineStart text i = a.flatten.length := by
  rw [lineStart, h, ← hi, List.take_left]

/-- Two fences with the lines around them say where their block is. -/
theorem blockBetween_eq {text : Bytes} {before body after : List Bytes}
    {opening closing : Bytes}
    (h : splitLines text = before ++ opening :: (body ++ closing :: after)) (n : Nat) :
    blockBetween text before.length (before.length + 1 + body.length) n =
      blockAt before.length before.flatten.length n opening body closing := by
  have h₁ : lineStart text before.length = before.flatten.length := lineStart_eq h rfl
  have h₂ : lineStart text (before.length + 1) = (before ++ [opening]).flatten.length :=
    lineStart_eq (b := body ++ closing :: after) (by simp [h]) (by simp)
  have h₃ : lineStart text (before.length + 1 + body.length) =
      (before ++ opening :: body).flatten.length :=
    lineStart_eq (b := closing :: after) (by simp [h]) (by simp; omega)
  have h₄ : lineStart text (before.length + 1 + body.length + 1) =
      (before ++ opening :: (body ++ [closing])).flatten.length :=
    lineStart_eq (b := after) (by simp [h]) (by simp; omega)
  rw [blockBetween, blockAt, h₁, h₂, h₃, h₄]
  simp [Nat.add_assoc]

theorem IsOutline.of_append {a b : List Part} (h : IsOutline (a ++ b)) : IsOutline b := by
  induction a with
  | nil => exact h
  | cons p a ih =>
      cases h with
      | line hopen hparts => exact ih hparts
      | block hopening hbody hclosing hparts => exact ih hparts

theorem closing_first_unique {a b x y : List Bytes} {c d : Bytes}
    (ha : ∀ l ∈ a, signature l ≠ some .closing) (hb : ∀ l ∈ b, signature l ≠ some .closing)
    (hc : signature c = some .closing) (hd : signature d = some .closing)
    (h : a ++ c :: x = b ++ d :: y) : a = b ∧ c = d ∧ x = y := by
  induction a generalizing b with
  | nil =>
      cases b with
      | nil => exact ⟨rfl, List.cons.inj h⟩
      | cons l b =>
          obtain ⟨rfl, _⟩ := List.cons.inj h
          exact absurd hc (hb _ (by simp))
  | cons l a ih =>
      cases b with
      | nil =>
          obtain ⟨rfl, _⟩ := List.cons.inj h
          exact absurd hd (ha _ (by simp))
      | cons m b =>
          obtain ⟨rfl, htail⟩ := List.cons.inj h
          rw [List.forall_mem_cons] at ha hb
          obtain ⟨rfl, heq⟩ := ih ha.2 hb.2 htail
          exact ⟨rfl, heq⟩

theorem exists_gap_of_append_cons_eq {α : Type} {xs ys zs ws : List α} {x z : α}
    (h : xs ++ x :: ys = zs ++ z :: ws) (hlength : xs.length < zs.length) :
    ∃ gap, zs = xs ++ x :: gap ∧ ys = gap ++ z :: ws := by
  rcases List.append_eq_append_iff.1 h with ⟨gap, rfl, hgap⟩ | ⟨gap, rfl, _⟩
  · cases gap with
    | nil => simp at hlength
    | cons y gap =>
        obtain ⟨rfl, rfl⟩ := List.cons.inj hgap
        exact ⟨gap, rfl, rfl⟩
  · rw [List.length_append] at hlength
    omega

/-- Two fences that pair up are those of a block of the outline, unless the
opening one lies in a block that begins before it. -/
theorem IsOutline.blockAt_mem {parts : List Part} (h : IsOutline parts)
    {before body after : List Bytes} {opening closing : Bytes} {n : Nat}
    (hlines : partLines parts = before ++ opening :: (body ++ closing :: after))
    (hopening : signature opening = some (.opening n))
    (hbody : ∀ l ∈ body, signature l ≠ some .closing)
    (hclosing : signature closing = some .closing) (number start : Nat) :
    (∃ a ∈ placeParts number start parts,
        a.startLine < number + before.length ∧ number + before.length ≤ a.endLine) ∨
      blockAt (number + before.length) (start + before.flatten.length) n opening body
        closing ∈ placeParts number start parts := by
  induction h generalizing before number start with
  | nil => simp at hlines
  | @line text parts hopen hparts ih =>
      rw [partLines_cons, Part.lines, List.singleton_append] at hlines
      cases before with
      | nil =>
          obtain ⟨rfl, hrest⟩ := List.cons.inj hlines
          exact absurd hclosing (hopen n hopening closing (by simp [hrest]))
      | cons l before =>
          obtain ⟨rfl, hrest⟩ := List.cons.inj hlines
          have h := ih hrest (number + 1) (start + text.length)
          simpa [placeParts_cons, Part.place?, Part.lines, Nat.add_assoc,
            Nat.add_comm 1] using h
  | @block m opening' body' closing' parts hopening' hbody' hclosing' hparts ih =>
      rw [partLines_cons, Part.lines, List.cons_append, List.append_assoc,
        List.singleton_append] at hlines
      rw [placeParts_cons, Part.place?]
      cases before with
      | nil =>
          obtain ⟨rfl, hrest⟩ := List.cons.inj hlines
          obtain ⟨rfl, rfl, _⟩ := closing_first_unique hbody' hbody hclosing' hclosing hrest
          obtain rfl : m = n := by
            rw [hopening'] at hopening
            injection hopening with hopening
            injection hopening
          right
          simp
      | cons l before =>
          obtain ⟨rfl, hrest⟩ := List.cons.inj hlines
          by_cases hin : before.length ≤ body'.length
          · -- the opening fence is a line of this block
            left
            refine ⟨_, List.mem_append_left _ (List.mem_singleton.2 rfl), ?_, ?_⟩
            · simp [blockAt]
            · simp [blockAt]
              omega
          · obtain ⟨gap, rfl, hparts'⟩ :=
              exists_gap_of_append_cons_eq hrest (Nat.lt_of_not_le hin)
            rcases ih hparts' (number + (body'.length + 2))
                (start + (opening'.length + body'.flatten.length + closing'.length)) with
              ⟨a, ha, hbounds⟩ | hmem
            · left
              refine ⟨a, List.mem_append_right _ ?_, ?_⟩
              · simpa [Part.lines, Nat.add_assoc] using ha
              · simp only [List.length_cons, List.length_append]
                omega
            · right
              refine List.mem_append_right _ ?_
              simpa [Part.lines, Nat.add_assoc, Nat.add_comm 2] using hmem

/-- A block of a text is a stretch of its lines, between two fences and without a closing
fence in the body. -/
theorem exists_lines_of_mem_scanLines {text : Bytes} {b : Block} (h : b ∈ scanLines text) :
    ∃ before opening body closing after,
      splitLines text = before ++ opening :: (body ++ closing :: after) ∧
        b = blockAt before.length before.flatten.length b.indent opening body closing ∧
        signature opening = some (.opening b.indent) ∧
        (∀ l ∈ body, signature l ≠ some .closing) ∧ signature closing = some .closing := by
  obtain ⟨parts, hparts, hlines⟩ := exists_outline (splitLines text)
  rw [hparts.scanLines_eq_placeParts hlines, mem_placeParts_iff] at h
  obtain ⟨before, n, opening, body, closing, after, rfl, rfl⟩ := h
  have hpart := hparts.of_append
  cases hpart with
  | block hopening hbody hclosing hafter =>
      refine ⟨partLines before, opening, body, closing, partLines after, ?_, ?_, hopening, hbody,
        hclosing⟩
      · rw [← hlines]
        simp [partLines, Part.lines]
      · rw [Nat.zero_add, Nat.zero_add]
        rfl

/-- A block of an outline, in line numbers. -/
theorem exists_of_mem_scanLines {text : Bytes} {b : Block} (h : b ∈ scanLines text) :
    OpensAt text b.startLine b.indent ∧ ClosesFirst text b.startLine b.endLine ∧
      b = blockBetween text b.startLine b.endLine b.indent := by
  obtain ⟨before, opening, body, closing, after, htext, hb, hopening, hbody, hclosing⟩ :=
    exists_lines_of_mem_scanLines h
  rw [hb]
  refine ⟨?_, ⟨?_, ?_, ?_⟩, (blockBetween_eq htext b.indent).symm⟩
  · exact ⟨opening, by simp [htext, blockAt], signature_eq_opening_iff.1 hopening⟩
  · simp only [blockAt]
    omega
  · refine closesAt_iff.2 ⟨closing, ?_, hclosing⟩
    rw [htext, List.getElem?_append_right (by simp only [blockAt]; omega)]
    simp [blockAt, Nat.add_assoc, Nat.add_comm 1]
  · intro k hstart hend hk
    obtain ⟨line, hline, hsig⟩ := closesAt_iff.1 hk
    simp only [blockAt] at hstart hend
    -- the line is one of the body
    obtain ⟨d, rfl⟩ := Nat.exists_eq_add_of_lt hstart
    have hd : d < body.length := by omega
    rw [htext, List.getElem?_append_right (by omega)] at hline
    have hk' : before.length + d + 1 - before.length = d + 1 := by omega
    rw [hk', List.getElem?_cons_succ, List.getElem?_append_left hd] at hline
    exact hbody line (List.mem_of_getElem? hline) hsig

theorem pairwise_scanLines (text : Bytes) :
    (scanLines text).Pairwise fun a b =>
      a.endLine < b.startLine ∧ a.span.stop ≤ b.span.start := by
  obtain ⟨parts, hparts, hlines⟩ := exists_outline (splitLines text)
  rw [hparts.scanLines_eq_placeParts hlines]
  exact pairwise_placeParts 0 0 parts

theorem endLine_lt_of_startLine_lt {text : Bytes} {a b : Block} (ha : a ∈ scanLines text)
    (hb : b ∈ scanLines text) (h : a.startLine < b.startLine) :
    a.endLine < b.startLine := by
  have hpairs := pairwise_scanLines text
  obtain ⟨before, after, hblocks⟩ := List.append_of_mem ha
  rw [hblocks, List.mem_append, List.mem_cons] at hb
  rw [hblocks, List.pairwise_append, List.pairwise_cons] at hpairs
  rcases hb with hb | rfl | hb
  · have hba := (hpairs.2.2 b hb a (by simp)).1
    have hlt := (exists_of_mem_scanLines (hblocks ▸ List.mem_append_left _ hb)).2.1.lt
    omega
  · omega
  · exact (hpairs.2.1.1 b hb).1

/-- The blocks that the line scanner finds are those between fences that pair
up. -/
theorem mem_scanLines_iff {text : Bytes} {b : Block} :
    b ∈ scanLines text ↔
      ∃ i j n, OpensAt text i n ∧ ClosesFirst text i j ∧
        (∀ a ∈ scanLines text, a.startLine < i → a.endLine < i) ∧
        b = blockBetween text i j n := by
  constructor
  · intro hb
    obtain ⟨hopen, hclose, heq⟩ := exists_of_mem_scanLines hb
    exact ⟨b.startLine, b.endLine, b.indent, hopen, hclose,
      fun a ha => endLine_lt_of_startLine_lt ha hb, heq⟩
  · rintro ⟨i, j, n, ⟨opening, hopening, hopens⟩, hclose, houtside, rfl⟩
    obtain ⟨closing, hclosing, hcloses⟩ := closesAt_iff.1 hclose.closes
    obtain ⟨before, rest, hbefore, rfl⟩ := exists_append_of_getElem? hopening
    obtain ⟨d, rfl⟩ := Nat.exists_eq_add_of_lt hclose.lt
    rw [hbefore, List.getElem?_append_right (by omega),
      show before.length + d + 1 - before.length = d + 1 by omega,
      List.getElem?_cons_succ] at hclosing
    obtain ⟨body, after, rfl, rfl⟩ := exists_append_of_getElem? hclosing
    have hbody : ∀ l ∈ body, signature l ≠ some .closing := by
      intro l hl hsig
      obtain ⟨k, hk, hkl⟩ := List.getElem_of_mem hl
      refine hclose.first (before.length + 1 + k) (by omega) (by omega)
        (closesAt_iff.2 ⟨l, ?_, hsig⟩)
      rw [hbefore, List.getElem?_append_right (by omega),
        show before.length + 1 + k - before.length = k + 1 by omega,
        List.getElem?_cons_succ, List.getElem?_append_left hk, ← hkl,
        List.getElem?_eq_getElem hk]
    obtain ⟨parts, hparts, hlines⟩ := exists_outline (splitLines text)
    rw [show before.length + body.length + 1 = before.length + 1 + body.length by omega,
      blockBetween_eq hbefore]
    rw [hparts.scanLines_eq_placeParts hlines] at houtside ⊢
    have h := hparts.blockAt_mem (hlines.trans hbefore)
      (signature_eq_opening_iff.2 hopens) hbody hcloses 0 0
    simp only [Nat.zero_add] at h
    rcases h with ⟨a, ha, hstart, hend⟩ | h
    · exact absurd (houtside a ha hstart) (Nat.not_lt.2 hend)
    · exact h

theorem mem_documentLines {text : Bytes} {l : Line} (h : l ∈ documentLines text) :
    (splitLines text)[l.number]? = some l.text ∧
      l.span = ⟨lineStart text l.number, lineStart text (l.number + 1)⟩ := by
  have hplace : ∀ (lines : List Bytes) (number start : Nat), l ∈ placeLines number start lines →
      ∃ before after, lines = before ++ l.text :: after ∧ l.number = number + before.length ∧
        l.span = ⟨start + before.flatten.length,
          start + (before ++ [l.text]).flatten.length⟩ := by
    intro lines
    induction lines with
    | nil => simp
    | cons text lines ih =>
        intro number start h
        rw [placeLines, List.mem_cons] at h
        rcases h with rfl | h
        · exact ⟨[], lines, rfl, rfl, by simp⟩
        · obtain ⟨before, after, hlines, hnumber, hspan⟩ := ih _ _ h
          refine ⟨text :: before, after, by rw [hlines]; rfl, ?_, ?_⟩
          · rw [hnumber, List.length_cons]
            omega
          · rw [hspan]
            simp [Nat.add_assoc]
  obtain ⟨before, after, hlines, hnumber, hspan⟩ := hplace _ 0 0 h
  rw [Nat.zero_add] at hnumber
  refine ⟨by simp [hlines, hnumber], ?_⟩
  rw [hspan, lineStart_eq hlines hnumber.symm,
    lineStart_eq (a := before ++ [l.text]) (b := after) (by simp [hlines])
      (by simp [hnumber]), Nat.zero_add, Nat.zero_add]

theorem lineStart_mono (text : Bytes) {i j : Nat} (h : i ≤ j) :
    lineStart text i ≤ lineStart text j := by
  obtain ⟨d, rfl⟩ := Nat.exists_eq_add_of_le h
  rw [lineStart, lineStart, List.take_add, List.flatten_append, List.length_append]
  omega

theorem lineStart_lt {text : Bytes} {i : Nat} {line : Bytes}
    (h : (splitLines text)[i]? = some line) : lineStart text i < lineStart text (i + 1) := by
  obtain ⟨before, after, hlines, rfl⟩ := exists_append_of_getElem? h
  have hne : line ≠ [] := (isCut_splitLines text).1.ne_nil line (List.mem_of_getElem? h)
  have hpos := List.length_pos_iff.2 hne
  rw [lineStart_eq hlines rfl,
    lineStart_eq (a := before ++ [line]) (b := after) (by simp [hlines]) (by simp)]
  simp
  omega

/-- The lines in the body of a block are those between its fences. -/
theorem contains_body_iff {text : Bytes} {b : Block} (hb : b ∈ scanLines text) {l : Line}
    (hl : l ∈ documentLines text) :
    b.body.contains l.span = true ↔ b.startLine < l.number ∧ l.number < b.endLine := by
  obtain ⟨hline, hspan⟩ := mem_documentLines hl
  have hlt := lineStart_lt hline
  rw [(exists_of_mem_scanLines hb).2.2, hspan, Span.contains_iff]
  simp only [blockBetween]
  constructor
  · rintro ⟨hstart, hstop⟩
    constructor
    · by_contra h
      have := lineStart_mono text (Nat.add_le_add_right (Nat.not_lt.1 h) 1)
      omega
    · by_contra h
      have := lineStart_mono text (Nat.not_lt.1 h)
      omega
  · rintro ⟨hstart, hstop⟩
    exact ⟨lineStart_mono text hstart, lineStart_mono text hstop⟩

theorem isLineBoundary_lineStart (text : Bytes) (i : Nat) :
    IsLineBoundary text (lineStart text i) := by
  obtain ⟨hcut, hflat⟩ := isCut_splitLines text
  have h := isLineBoundary_flatten (a := (splitLines text).take i)
    (b := (splitLines text).drop i) (by rwa [List.take_append_drop])
  rwa [List.take_append_drop, hflat] at h

/-- The line scanner recognizes exactly the grammar of fences: on the lines that the text
is cut into behind its newlines, its blocks come in order and are those between an opening
fence outside of earlier blocks and the first closing fence after it. So their four ends
are line boundaries, they are well placed, an opening fence without a closing fence gives
no block, and no closing fence lies in a body. -/
theorem scanLines_recognizes (text : Bytes) :
    (∀ lines, lines = splitLines text ↔ IsCut lines ∧ lines.flatten = text) ∧
    ((scanLines text).Pairwise fun a b => a.endLine < b.startLine) ∧
    (∀ b, b ∈ scanLines text ↔
      ∃ i j n, OpensAt text i n ∧ ClosesFirst text i j ∧
        (∀ a ∈ scanLines text, a.startLine < i → a.endLine < i) ∧
        b = blockBetween text i j n) ∧
    (∀ b ∈ scanLines text,
      ∀ place ∈ [b.span.start, b.body.start, b.body.stop, b.span.stop],
        IsLineBoundary text place ∧
          ∀ chars, Utf8.decode text = .ok chars → isCharBoundary text place = true) ∧
    checkPlacement text.length (scanLines text) = .ok () ∧
    (∀ i n, OpensAt text i n → (∀ j, i < j → ¬ ClosesAt text j) →
      ∀ b ∈ scanLines text, b.startLine ≠ i) ∧
    (∀ b ∈ scanLines text, ∀ l ∈ documentLines text, IsClosing l.text →
      b.body.contains l.span = false) := by
  refine ⟨fun _ => eq_splitLines_iff, (pairwise_scanLines text).imp And.left,
    fun b => mem_scanLines_iff, ?_,
    checkPlacement_eq_ok_iff.2 (wellPlaced_scanLines text), ?_, ?_⟩
  · intro b hb place hplace
    have hboundary : IsLineBoundary text place := by
      rw [(exists_of_mem_scanLines hb).2.2] at hplace
      simp only [blockBetween, List.mem_cons, List.not_mem_nil, or_false] at hplace
      rcases hplace with rfl | rfl | rfl | rfl <;> exact isLineBoundary_lineStart text _
    exact ⟨hboundary, fun _ hdecode => isCharBoundary_of_isLineBoundary hdecode hboundary⟩
  · rintro _ n _ hnone b hb rfl
    have hclose := (exists_of_mem_scanLines hb).2.1
    exact hnone b.endLine hclose.lt hclose.closes
  · intro b hb l hl hclosing
    have hline := (mem_documentLines hl).1
    rw [Bool.eq_false_iff, ne_eq, contains_body_iff hb hl]
    rintro ⟨hstart, hend⟩
    exact (exists_of_mem_scanLines hb).2.1.first l.number hstart hend ⟨l.text, hline, hclosing⟩

end FencedDiff
