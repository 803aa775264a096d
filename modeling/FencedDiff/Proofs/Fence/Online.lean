import FencedDiff.Fence.LineScan
import FencedDiff.Proofs.Fence.Placement
import Mathlib.Data.List.Chain

/-!
# The line scanner on any lines

The lines of a document are numbered one by one and touch each other. The line scanner
relies on neither, nor on its lines being those of a text. Whatever it is given, the blocks
that it has are those between fences that it took from the lines, an opening and a closing
one in turn (`Encloses`), and where it stands in a block, it has taken an opening fence more
(`LineScanner.After`).

So what holds of any two lines in their order holds of any two of the fences, and it is this
that orders the blocks: by their bytes where the lines are in order, by their line numbers
where these go up. The scanner is online, for a line adds a block or none to the blocks of
the lines before it. The lines that add one are the closing fences with an opening fence
before them and no closing one in between (`EndsInBlock`, `fenceBlocks_online`).
-/

namespace FencedDiff

/-- The blocks of classified lines. -/
def fenceBlocks (lines : List FenceLine) : List Block := (({} : LineScanner).pushAll lines).finish

/-- No line is inverted, and each begins where the one before ends, or behind. -/
structure InOrder (lines : List FenceLine) : Prop where
  start_le_stop : ∀ l ∈ lines, l.span.start ≤ l.span.stop
  chain : lines.IsChain fun a b => a.span.stop ≤ b.span.start

/-- Behind the lines a closing fence would close a block: they have an opening fence and
behind it no closing one. -/
def EndsInBlock (lines : List FenceLine) : Prop :=
  ∃ before opening between, lines = before ++ opening :: between ∧
    (∃ n, opening.signature = some (.opening n)) ∧ ∀ l ∈ between, l.signature ≠ some .closing

/-- The block between two fences. -/
def FenceLine.blockTo (opening : FenceLine) (indent : Nat) (closing : FenceLine) : Block where
  span := ⟨opening.span.start, closing.span.stop⟩
  body := ⟨opening.span.stop, closing.span.start⟩
  startLine := opening.number
  endLine := closing.number
  indent := indent

/-- The blocks are those between the fences, which open and close in turn. -/
inductive Encloses : List FenceLine → List Block → Prop
  | nil : Encloses [] []
  | snoc {fences : List FenceLine} {blocks : List Block} {opening closing : FenceLine}
      {indent : Nat} (h : Encloses fences blocks)
      (hopening : opening.signature = some (.opening indent))
      (hclosing : closing.signature = some .closing) :
      Encloses (fences ++ [opening, closing]) (blocks ++ [opening.blockTo indent closing])

/-- The scanner has the blocks between fences taken from the lines, and stands in a block
behind one fence more. -/
inductive LineScanner.After (lines : List FenceLine) : LineScanner → Prop
  | outside {fences : List FenceLine} {blocks : Array Block} (h : Encloses fences blocks.toList)
      (hlines : fences.Sublist lines) : After lines ⟨.outside, blocks⟩
  | inBlock {fences : List FenceLine} {blocks : Array Block} {opening : FenceLine} {indent : Nat}
      (h : Encloses fences blocks.toList) (hopening : opening.signature = some (.opening indent))
      (hlines : (fences ++ [opening]).Sublist lines) :
      After lines ⟨.inBlock opening.span opening.number indent, blocks⟩

theorem LineScanner.After.push {s : LineScanner} {lines : List FenceLine} (h : s.After lines)
    (l : FenceLine) : (s.push l).After (lines ++ [l]) := by
  cases h with
  | outside h hlines =>
      cases hopen : opens l.signature with
      | none =>
          simp only [LineScanner.push, hopen]
          exact .outside h (hlines.trans (List.sublist_append_left ..))
      | some indent =>
          simp only [LineScanner.push, hopen]
          exact .inBlock h (opens_eq_some_iff.1 hopen) (hlines.append (.refl [l]))
  | @inBlock fences blocks opening indent h hopening hlines =>
      cases hclose : closes l.signature with
      | false =>
          simp only [LineScanner.push, hclose]
          exact .inBlock h hopening (hlines.trans (List.sublist_append_left ..))
      | true =>
          have hblocks := h.snoc hopening (closes_eq_true_iff.1 hclose)
          rw [← Array.toList_push] at hblocks
          have hfences := hlines.append (.refl [l])
          rw [List.append_assoc] at hfences
          simp only [LineScanner.push, hclose, if_true]
          exact .outside hblocks hfences

theorem LineScanner.after_pushAll (lines : List FenceLine) :
    (({} : LineScanner).pushAll lines).After lines := by
  induction lines using List.reverseRecOn with
  | nil => exact .outside .nil (List.nil_sublist _)
  | append_singleton lines l ih =>
      rw [pushAll_append]
      exact ih.push l

/-- The blocks of lines lie between fences taken from the lines. -/
theorem exists_encloses_fenceBlocks (lines : List FenceLine) :
    ∃ fences, fences.Sublist lines ∧ Encloses fences (fenceBlocks lines) := by
  have hafter := LineScanner.after_pushAll lines
  rw [fenceBlocks]
  generalize ({} : LineScanner).pushAll lines = s at hafter
  cases hafter with
  | outside h hlines => exact ⟨_, hlines, h⟩
  | inBlock h hopening hlines => exact ⟨_, (List.sublist_append_left ..).trans hlines, h⟩

theorem endsInBlock_append_singleton_iff {lines : List FenceLine} {l : FenceLine} :
    EndsInBlock (lines ++ [l]) ↔
      (∃ n, l.signature = some (.opening n)) ∨
        EndsInBlock lines ∧ l.signature ≠ some .closing := by
  constructor
  · rintro ⟨before, opening, between, heq, hopening, hbetween⟩
    rcases List.eq_nil_or_concat between with rfl | ⟨between, last, rfl⟩
    · obtain ⟨_, hlast⟩ := List.append_inj' heq rfl
      rw [List.cons.inj hlast |>.1]
      exact .inl hopening
    · rw [List.concat_eq_append, ← List.cons_append, ← List.append_assoc] at heq
      obtain ⟨hlines, hlast⟩ := List.append_inj' heq rfl
      rw [List.concat_eq_append, List.forall_mem_append, List.forall_mem_singleton] at hbetween
      rw [List.cons.inj hlast |>.1]
      exact .inr ⟨⟨before, opening, between, hlines, hopening, hbetween.1⟩, hbetween.2⟩
  · rintro (hopening | ⟨⟨before, opening, between, rfl, hopening, hbetween⟩, hl⟩)
    · exact ⟨lines, l, [], rfl, hopening, List.forall_mem_nil _⟩
    · refine ⟨before, opening, between ++ [l], by simp, hopening, ?_⟩
      rw [List.forall_mem_append, List.forall_mem_singleton]
      exact ⟨hbetween, hl⟩

namespace LineScanner

theorem isSome_unclosed?_push_iff (s : LineScanner) (l : FenceLine) :
    (s.push l).unclosed?.isSome = true ↔
      (∃ n, l.signature = some (.opening n)) ∨
        s.unclosed?.isSome = true ∧ l.signature ≠ some .closing := by
  obtain ⟨state, blocks⟩ := s
  simp only [← opens_eq_some_iff, ← Option.isSome_iff_exists]
  cases state with
  | outside => cases hopen : opens l.signature <;> simp [push, hopen, unclosed?]
  | inBlock opening startLine indent =>
      by_cases hclosing : l.signature = some .closing
      · simp [push, unclosed?, hclosing, opens]
      · simp [push, unclosed?, hclosing]

/-- The scanner stands in a block where the lines that it took end in one. -/
theorem isSome_unclosed?_pushAll_iff (lines : List FenceLine) :
    (({} : LineScanner).pushAll lines).unclosed?.isSome = true ↔ EndsInBlock lines := by
  induction lines using List.reverseRecOn with
  | nil => simp [unclosed?, EndsInBlock]
  | append_singleton lines l ih =>
      rw [pushAll_append, pushAll_cons, pushAll_nil, isSome_unclosed?_push_iff, ih,
        endsInBlock_append_singleton_iff]

/-- A closing fence within a block completes it. -/
theorem finish_push_of_closing {s : LineScanner} {l : FenceLine}
    (hs : s.unclosed?.isSome = true) (hl : l.signature = some .closing) :
    ∃ b, (s.push l).finish = s.finish ++ [b] := by
  obtain ⟨state, blocks⟩ := s
  cases state with
  | outside => cases hs
  | inBlock opening startLine indent =>
      simp only [push, closes_eq_true_iff.2 hl, if_true]
      exact ⟨_, Array.toList_push⟩

/-- Any other line leaves the blocks as they are. -/
theorem finish_push_of_not {s : LineScanner} {l : FenceLine}
    (h : ¬ (l.signature = some .closing ∧ s.unclosed?.isSome = true)) :
    (s.push l).finish = s.finish := by
  obtain ⟨state, blocks⟩ := s
  cases state with
  | outside =>
      cases hopen : opens l.signature with
      | none => simp only [push, hopen]
      | some indent =>
          simp only [push, hopen]
          rfl
  | inBlock opening startLine indent =>
      have hclose : closes l.signature = false := by
        rw [Bool.eq_false_iff, ne_eq, closes_eq_true_iff]
        exact fun hl => h ⟨hl, rfl⟩
      simp only [push, hclose]
      rfl

end LineScanner

theorem fenceBlocks_take_succ_of_closing {lines : List FenceLine} {k : Nat} {l : FenceLine}
    (hl : lines[k]? = some l) (hclosing : l.signature = some .closing)
    (hblock : EndsInBlock (lines.take k)) :
    ∃ b, fenceBlocks (lines.take (k + 1)) = fenceBlocks (lines.take k) ++ [b] := by
  rw [fenceBlocks, fenceBlocks, List.take_add_one, hl, LineScanner.pushAll_append]
  exact LineScanner.finish_push_of_closing
    ((LineScanner.isSome_unclosed?_pushAll_iff _).2 hblock) hclosing

theorem fenceBlocks_take_succ_of_not {lines : List FenceLine} {k : Nat}
    (h : ¬ ∃ l, lines[k]? = some l ∧ l.signature = some .closing ∧ EndsInBlock (lines.take k)) :
    fenceBlocks (lines.take (k + 1)) = fenceBlocks (lines.take k) := by
  rw [fenceBlocks, fenceBlocks, List.take_add_one, LineScanner.pushAll_append]
  cases hl : lines[k]? with
  | none => rfl
  | some l =>
      refine LineScanner.finish_push_of_not fun hclosing => h ⟨l, hl, hclosing.1, ?_⟩
      exact (LineScanner.isSome_unclosed?_pushAll_iff _).1 hclosing.2

namespace InOrder

variable {lines : List FenceLine}

theorem of_cons {l : FenceLine} (h : InOrder (l :: lines)) : InOrder lines := by
  refine ⟨fun m hm => h.start_le_stop m (List.mem_cons_of_mem l hm), ?_⟩
  cases lines with
  | nil => exact .nil
  | cons m lines => exact (List.isChain_cons_cons.1 h.chain).2

/-- Of two lines in order the first ends before the second begins, also where there are
others between them. -/
theorem pairwise (h : InOrder lines) :
    lines.Pairwise fun a b => a.span.stop ≤ b.span.start := by
  induction lines with
  | nil => exact .nil
  | cons l lines ih =>
      have hrest := ih h.of_cons
      refine List.pairwise_cons.2 ⟨?_, hrest⟩
      cases lines with
      | nil => simp
      | cons m lines =>
          have hnext := (List.isChain_cons_cons.1 h.chain).1
          rw [List.forall_mem_cons]
          refine ⟨hnext, fun b hb => ?_⟩
          calc l.span.stop ≤ m.span.start := hnext
            _ ≤ m.span.stop := h.start_le_stop m (by simp)
            _ ≤ b.span.start := (List.pairwise_cons.1 hrest).1 b hb

theorem take (h : InOrder lines) (k : Nat) : InOrder (lines.take k) := by
  refine ⟨fun l hl => h.start_le_stop l (List.mem_of_mem_take hl), ?_⟩
  exact (h.pairwise.sublist (List.take_sublist k lines)).isChain

/-- No line ends behind the last. -/
theorem stop_le (h : InOrder lines) {length : Nat}
    (hlast : ∀ l ∈ lines.getLast?, l.span.stop ≤ length) : ∀ l ∈ lines, l.span.stop ≤ length := by
  induction lines using List.reverseRecOn with
  | nil => simp
  | append_singleton lines last ih =>
      have hlength : last.span.stop ≤ length := hlast last (by simp)
      have hpairs := List.pairwise_append.1 h.pairwise
      intro l hl
      rcases List.mem_append.1 hl with hl | hl
      · calc l.span.stop ≤ last.span.start := hpairs.2.2 l hl last (by simp)
          _ ≤ last.span.stop := h.start_le_stop last (by simp)
          _ ≤ length := hlength
      · rwa [List.mem_singleton.1 hl]

end InOrder

namespace Encloses

variable {fences : List FenceLine} {blocks : List Block} {R : FenceLine → FenceLine → Prop}

/-- What holds of any two fences in their order holds of the two fences of a block. -/
theorem exists_of_mem (h : Encloses fences blocks) (hfences : fences.Pairwise R) {b : Block}
    (hb : b ∈ blocks) : ∃ opening ∈ fences, ∃ closing ∈ fences, ∃ indent,
      b = opening.blockTo indent closing ∧ R opening closing := by
  induction h with
  | nil => cases hb
  | @snoc fences blocks opening closing indent h hopening hclosing ih =>
      obtain ⟨hbefore, hlast, _⟩ := List.pairwise_append.1 hfences
      rcases List.mem_append.1 hb with hb | hb
      · obtain ⟨o, ho, c, hc, n, heq, hR⟩ := ih hbefore hb
        exact ⟨o, List.mem_append_left _ ho, c, List.mem_append_left _ hc, n, heq, hR⟩
      · refine ⟨opening, by simp, closing, by simp, indent, List.mem_singleton.1 hb, ?_⟩
        exact (List.pairwise_cons.1 hlast).1 closing (by simp)

/-- What holds of any two fences in their order holds of the closing fence of a block and
the opening fence of a later one. -/
theorem pairwise (h : Encloses fences blocks) (hfences : fences.Pairwise R) :
    blocks.Pairwise fun a b => ∃ closing opening, R closing opening ∧
      a.span.stop = closing.span.stop ∧ a.endLine = closing.number ∧
      b.span.start = opening.span.start ∧ b.startLine = opening.number := by
  induction h with
  | nil => exact .nil
  | @snoc fences blocks opening closing indent h hopening hclosing ih =>
      obtain ⟨hbefore, _, hbetween⟩ := List.pairwise_append.1 hfences
      refine List.pairwise_append.2 ⟨ih hbefore, List.pairwise_singleton .., ?_⟩
      intro a ha b hb
      obtain ⟨o, _, c, hc, n, rfl, _⟩ := h.exists_of_mem hbefore ha
      obtain rfl := List.mem_singleton.1 hb
      exact ⟨c, opening, hbetween c hc opening (by simp), rfl, rfl, rfl, rfl⟩

end Encloses

section Ordered

variable {lines : List FenceLine}

/-- The blocks of lines in order are well placed in every document that does not end before
the last line. -/
theorem InOrder.wellPlaced_fenceBlocks (h : InOrder lines) {length : Nat}
    (hlast : ∀ l ∈ lines.getLast?, l.span.stop ≤ length) :
    WellPlaced length (fenceBlocks lines) := by
  obtain ⟨fences, hsub, hblocks⟩ := exists_encloses_fenceBlocks lines
  have hfences := h.pairwise.sublist hsub
  refine ⟨fun b hb => ?_, (hblocks.pairwise hfences).imp ?_⟩
  · obtain ⟨opening, hopening, closing, hclosing, indent, rfl, hbody⟩ :=
      hblocks.exists_of_mem hfences hb
    exact ⟨h.start_le_stop opening (hsub.subset hopening), hbody,
      h.start_le_stop closing (hsub.subset hclosing),
      h.stop_le hlast closing (hsub.subset hclosing)⟩
  · rintro a b ⟨closing, opening, hle, hstop, _, hstart, _⟩
    rwa [hstop, hstart]

/-- Where line numbers go up, the line numbers of blocks do. -/
theorem startLine_lt_of_pairwise_number (h : lines.Pairwise fun a b => a.number < b.number) :
    (∀ b ∈ fenceBlocks lines, b.startLine < b.endLine) ∧
      (fenceBlocks lines).Pairwise fun a b => a.endLine < b.startLine := by
  obtain ⟨fences, hsub, hblocks⟩ := exists_encloses_fenceBlocks lines
  have hfences := h.sublist hsub
  refine ⟨fun b hb => ?_, (hblocks.pairwise hfences).imp ?_⟩
  · obtain ⟨opening, _, closing, _, indent, rfl, hlt⟩ := hblocks.exists_of_mem hfences hb
    exact hlt
  · rintro a b ⟨closing, opening, hlt, _, hend, _, hstart⟩
    rwa [hend, hstart]

end Ordered

/-- The line scanner is online, on lines of any kind. Its blocks after some lines stay its
blocks after one line more, which adds a block at most, and does so just if it is a closing
fence where the lines before it end in a block.
Where the lines are in order the blocks pass the placement check for every document that
does not end before the last line taken, and where their numbers go up each block ends on a
later line than it begins on, and before the next begins. -/
theorem fenceBlocks_online (lines : List FenceLine) (k : Nat) :
    (fenceBlocks (lines.take k) <+: fenceBlocks (lines.take (k + 1)) ∧
      (fenceBlocks (lines.take (k + 1))).length ≤ (fenceBlocks (lines.take k)).length + 1 ∧
      ((fenceBlocks (lines.take k)).length < (fenceBlocks (lines.take (k + 1))).length ↔
        ∃ l, lines[k]? = some l ∧ l.signature = some .closing ∧ EndsInBlock (lines.take k))) ∧
    (InOrder lines → ∀ length, (∀ l ∈ (lines.take k).getLast?, l.span.stop ≤ length) →
      checkPlacement length (fenceBlocks (lines.take k)) = .ok ()) ∧
    (lines.IsChain (fun a b => a.number < b.number) →
      (∀ b ∈ fenceBlocks (lines.take k), b.startLine < b.endLine) ∧
        (fenceBlocks (lines.take k)).IsChain fun a b => a.endLine < b.startLine) := by
  refine ⟨?_, fun h length hlast => ?_, fun h => ?_⟩
  · by_cases hadds : ∃ l, lines[k]? = some l ∧ l.signature = some .closing ∧
        EndsInBlock (lines.take k)
    · obtain ⟨l, hl, hclosing, hblock⟩ := hadds
      obtain ⟨b, heq⟩ := fenceBlocks_take_succ_of_closing hl hclosing hblock
      rw [heq, List.length_append, List.length_singleton]
      exact ⟨List.prefix_append .., Nat.le_refl _,
        iff_of_true (Nat.lt_succ_self _) ⟨l, hl, hclosing, hblock⟩⟩
    · rw [fenceBlocks_take_succ_of_not hadds]
      exact ⟨List.prefix_rfl, Nat.le_succ _, iff_of_false (Nat.lt_irrefl _) hadds⟩
  · exact checkPlacement_eq_ok_iff.2 ((h.take k).wellPlaced_fenceBlocks hlast)
  · have hnumbers : (lines.map FenceLine.number).Pairwise (· < ·) :=
      List.isChain_iff_pairwise.1 ((List.isChain_map _).2 h)
    have hlines := (List.pairwise_map.1 hnumbers).sublist (List.take_sublist k lines)
    obtain ⟨hwithin, hbetween⟩ := startLine_lt_of_pairwise_number hlines
    exact ⟨hwithin, hbetween.isChain⟩

/-- Lines such as no text has: with a gap between them, with no byte, with numbers left out.
A fence opens within a block, and one closes outside. -/
def sparseLines : List FenceLine :=
  [⟨⟨2, 5⟩, 1, some (.opening 1)⟩, ⟨⟨7, 7⟩, 4, some (.opening 0)⟩, ⟨⟨7, 9⟩, 5, some .closing⟩,
    ⟨⟨9, 9⟩, 6, some .closing⟩, ⟨⟨12, 14⟩, 8, some (.opening 3)⟩, ⟨⟨14, 14⟩, 9, some .closing⟩]

theorem fenceBlocks_online_sparseLines :
    fenceBlocks (sparseLines.take 5) = [⟨⟨2, 9⟩, ⟨5, 7⟩, 1, 5, 1⟩] ∧
      fenceBlocks (sparseLines.take 6) =
        [⟨⟨2, 9⟩, ⟨5, 7⟩, 1, 5, 1⟩, ⟨⟨12, 14⟩, ⟨14, 14⟩, 8, 9, 3⟩] ∧
      (∃ l, sparseLines[5]? = some l ∧ l.signature = some .closing ∧
        EndsInBlock (sparseLines.take 5)) ∧
      InOrder sparseLines ∧
      checkPlacement 14 (fenceBlocks (sparseLines.take 6)) = .ok () ∧
      (fenceBlocks (sparseLines.take 6)).IsChain fun a b => a.endLine < b.startLine := by
  have hfive : fenceBlocks (sparseLines.take 5) = [⟨⟨2, 9⟩, ⟨5, 7⟩, 1, 5, 1⟩] := by decide
  have hsix : fenceBlocks (sparseLines.take 6) =
      [⟨⟨2, 9⟩, ⟨5, 7⟩, 1, 5, 1⟩, ⟨⟨12, 14⟩, ⟨14, 14⟩, 8, 9, 3⟩] := by decide
  have horder : InOrder sparseLines := ⟨by decide, by decide⟩
  obtain ⟨⟨_, _, hclosing⟩, _⟩ := fenceBlocks_online sparseLines 5
  obtain ⟨_, hcheck, hnumbers⟩ := fenceBlocks_online sparseLines 6
  exact ⟨hfive, hsix, hclosing.1 (by rw [hfive, hsix]; decide), horder,
    hcheck horder 14 (by decide), (hnumbers (by decide)).2⟩

end FencedDiff
