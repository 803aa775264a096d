import FencedDiff.Document.Splice
import FencedDiff.Proofs.Fence.Placement

/-!
# Splicing in old places

Splicing cuts the rest of a document again and again. What comes of it can be said in two
ways in which nothing is cut twice. Counted in the old document, it is the stretches of text
between the old bodies with the new bodies in their places (`interleave`). It is also what
is left when the bodies are replaced one at a time, each in the whole document, the last
first (`replaceBodies`): a body that is replaced does not move what is in front of it.

Both hang on the order of the bodies, which the placement check grants: blocks of which
none begins before another ends have bodies of that kind, for a body lies in its block. So
splicing is refused exactly where the check refuses the blocks (`splice_in_old_places`).
-/

namespace FencedDiff

open Bytes

/-- The text from byte `pos` on with bodies in the place of spans: the stretch of text
before a span, its new body, and so on behind the span. -/
def interleave (text : Bytes) (pos : Nat) : List (Span × Bytes) → Bytes
  | [] => text.drop pos
  | (old, new) :: rest =>
    (⟨pos, old.start⟩ : Span).slice text ++ new ++ interleave text old.stop rest

/-- The text with a body in the place of a span. -/
def replaceSpan (text : Bytes) (span : Span) (body : Bytes) : Bytes :=
  text.take span.start ++ body ++ text.drop span.stop

/-- The text with the bodies of edits replaced one at a time, that of the last edit first. -/
def replaceBodies (text : Bytes) (edits : List Edit) : Bytes :=
  edits.foldr (fun e done => replaceSpan done e.block.body e.body) text

/-- The bodies of well placed blocks come one after the other. -/
theorem WellPlaced.pairwise_body {length : Nat} {blocks : List Block}
    (h : WellPlaced length blocks) :
    blocks.Pairwise fun a b => a.body.stop ≤ b.body.start := by
  apply h.ordered.imp_of_mem
  intro a b ha hb hab
  calc a.body.stop ≤ a.span.stop := (h.within a ha).stop_le
    _ ≤ b.span.start := hab
    _ ≤ b.body.start := (h.within b hb).start_le

theorem splice_of_wellPlaced {text : Bytes} {edits : List Edit}
    (h : WellPlaced text.length (edits.map Edit.block)) :
    splice text edits = .ok (spliceFrom 0 text edits) := by
  cases edits with
  | nil => rfl
  | cons e edits =>
      rw [splice, checkPlacement_eq_ok_iff.2 h]
      · rfl
      · simp

/-- Splicing fails as the check of the blocks does. -/
theorem splice_eq_error_iff {text : Bytes} {edits : List Edit} {cause : PlacementError} :
    splice text edits = .error cause ↔
      checkPlacement text.length (edits.map Edit.block) = .error cause := by
  cases edits with
  | nil => simp [splice, checkPlacement, checkPlacementFrom]
  | cons e edits =>
      rw [splice]
      · cases checkPlacement text.length ((e :: edits).map Edit.block) with
        | error _ => simp [Except.map]
        | ok _ => simp [Except.map]
      · simp

section Ordered

variable {text : Bytes} {length pos : Nat} {e : Edit} {edits : List Edit}

theorem WellPlaced.of_cons_edits (h : WellPlaced length ((e :: edits).map Edit.block)) :
    WellPlaced length (edits.map Edit.block) :=
  h.sublist (List.sublist_cons_self ..)

/-- Behind a body come the other bodies. -/
theorem WellPlaced.le_body_start (h : WellPlaced length ((e :: edits).map Edit.block)) :
    ∀ d ∈ edits, e.block.body.stop ≤ d.block.body.start := by
  have hpairs := h.pairwise_body
  rw [List.map_cons, List.pairwise_cons] at hpairs
  exact fun d hd => hpairs.1 d.block (List.mem_map_of_mem hd)

/-- Splicing, which cuts the rest of a text again and again, takes the same stretches that
are cut from the whole text. -/
theorem spliceFrom_eq_interleave (h : WellPlaced length (edits.map Edit.block))
    (hpos : ∀ e ∈ edits, pos ≤ e.block.body.start) :
    spliceFrom pos (text.drop pos) edits =
      interleave text pos (edits.map fun e => (e.block.body, e.body)) := by
  induction edits generalizing pos with
  | nil => rfl
  | cons e edits ih =>
      rw [List.forall_mem_cons] at hpos
      have hbody := (h.within e.block List.mem_cons_self).body_le
      have hrest : (text.drop pos).drop (e.block.body.stop - pos) =
          text.drop e.block.body.stop := by
        rw [List.drop_drop, Nat.add_sub_cancel' (Nat.le_trans hpos.1 hbody)]
      rw [spliceFrom, hrest, ih h.of_cons_edits h.le_body_start]
      rfl

/-- Replacing bodies leaves alone what is in front of them. -/
theorem take_replaceBodies (hpos : ∀ e ∈ edits, pos ≤ e.block.body.start)
    (hlength : pos ≤ text.length) : (replaceBodies text edits).take pos = text.take pos := by
  induction edits with
  | nil => rfl
  | cons e edits ih =>
      rw [List.forall_mem_cons] at hpos
      have hfront := ih hpos.2
      -- what has been replaced already is no shorter than the front
      have hdone : pos ≤ (replaceBodies text edits).length := by
        have := congrArg List.length hfront
        rw [List.length_take, List.length_take, Nat.min_eq_left hlength] at this
        omega
      have hstart : pos ≤ ((replaceBodies text edits).take e.block.body.start).length := by
        rw [List.length_take]
        exact Nat.le_min.2 ⟨hpos.1, hdone⟩
      calc (replaceBodies text (e :: edits)).take pos
          = ((replaceBodies text edits).take e.block.body.start).take pos := by
            rw [replaceBodies, List.foldr_cons, ← replaceBodies, replaceSpan, List.append_assoc,
              List.take_append_of_le_length hstart]
        _ = (replaceBodies text edits).take pos := by
            rw [List.take_take, Nat.min_eq_left hpos.1]
        _ = text.take pos := hfront

/-- From any place in front of the bodies on, replacing them one at a time gives the
stretches between them and the new bodies. -/
theorem drop_replaceBodies (h : WellPlaced text.length (edits.map Edit.block))
    (hpos : ∀ e ∈ edits, pos ≤ e.block.body.start) :
    (replaceBodies text edits).drop pos =
      interleave text pos (edits.map fun e => (e.block.body, e.body)) := by
  induction edits generalizing pos with
  | nil => rfl
  | cons e edits ih =>
      rw [List.forall_mem_cons] at hpos
      obtain ⟨hstart, hbody, hstop, hlength⟩ := h.within e.block List.mem_cons_self
      have hbehind := h.le_body_start
      have hfront : (replaceBodies text edits).take e.block.body.start =
          text.take e.block.body.start :=
        take_replaceBodies (fun d hd => Nat.le_trans hbody (hbehind d hd)) (by omega)
      have hgap : (text.take e.block.body.start).drop pos =
          (⟨pos, e.block.body.start⟩ : Span).slice text := List.drop_take ..
      have hle : pos ≤ (text.take e.block.body.start).length := by
        rw [List.length_take]
        omega
      rw [replaceBodies, List.foldr_cons, ← replaceBodies, replaceSpan, hfront,
        ih h.of_cons_edits hbehind, List.append_assoc, List.drop_append_of_le_length hle, hgap,
        List.map_cons, interleave, List.append_assoc]

end Ordered

/-- Splicing counts all places in the old document. Without edits it answers the document;
it is refused exactly where the check refuses the blocks; and otherwise it answers the
stretches between the old bodies with the new bodies between them, which is the document
with the bodies replaced one at a time, the last first. -/
theorem splice_in_old_places (text : Bytes) (edits : List Edit) :
    splice text [] = .ok text ∧
    (∀ cause, splice text edits = .error cause ↔
      checkPlacement text.length (edits.map Edit.block) = .error cause) ∧
    (checkPlacement text.length (edits.map Edit.block) = .ok () →
      splice text edits =
        .ok (interleave text 0 (edits.map fun e => (e.block.body, e.body))) ∧
      splice text edits = .ok (replaceBodies text edits)) := by
  refine ⟨rfl, fun _ => splice_eq_error_iff, fun hcheck => ?_⟩
  have h := checkPlacement_eq_ok_iff.1 hcheck
  have hfirst : ∀ e ∈ edits, 0 ≤ e.block.body.start := fun _ _ => Nat.zero_le _
  have hsplice : spliceFrom 0 (text.drop 0) edits = _ := spliceFrom_eq_interleave h hfirst
  have hreplace := drop_replaceBodies h hfirst
  rw [List.drop_zero] at hsplice hreplace
  rw [splice_of_wellPlaced h, hsplice, hreplace]
  exact ⟨rfl, rfl⟩

/-- Edits of six bytes: an empty body in the first block, a block without any byte right
behind it, and a block whose body ends where the text does. -/
def adjacentEdits : List Edit :=
  [⟨⟨⟨0, 2⟩, ⟨1, 1⟩, 0, 1, 0⟩, [0x78, 0x79]⟩, ⟨⟨⟨2, 2⟩, ⟨2, 2⟩, 2, 3, 0⟩, []⟩,
    ⟨⟨⟨2, 6⟩, ⟨4, 6⟩, 4, 5, 0⟩, [0x7A]⟩]

theorem splice_in_old_places_adjacentEdits :
    checkPlacement 6 (adjacentEdits.map Edit.block) = .ok () ∧
      splice [0x61, 0x62, 0x63, 0x64, 0x65, 0x66] adjacentEdits =
        .ok [0x61, 0x78, 0x79, 0x62, 0x63, 0x64, 0x7A] ∧
      replaceBodies [0x61, 0x62, 0x63, 0x64, 0x65, 0x66] adjacentEdits =
        [0x61, 0x78, 0x79, 0x62, 0x63, 0x64, 0x7A] := by
  have hcheck : checkPlacement 6 (adjacentEdits.map Edit.block) = .ok () := by decide
  obtain ⟨hgaps, hsteps⟩ :=
    (splice_in_old_places [0x61, 0x62, 0x63, 0x64, 0x65, 0x66] adjacentEdits).2.2 hcheck
  have hanswer := hgaps.trans (congrArg Except.ok
    (show _ = [0x61, 0x78, 0x79, 0x62, 0x63, 0x64, 0x7A] by decide))
  exact ⟨hcheck, hanswer, Except.ok.inj (hsteps.symm.trans hanswer)⟩

end FencedDiff
