import FencedDiff.Proofs.Fence.Pairing

/-!
# Blocks of a concatenation

A document may be put together from two texts. If the first ends with a whole line and
with none of its opening fences left outside of blocks (`EndsBetweenBlocks`), nothing of
it reaches into the second: an outline of each text makes an outline of both
(`IsOutline.append`), and the scanner finds the blocks of the first and then those of the
second, moved behind the first (`scanLines_append`).
-/

namespace FencedDiff

open Bytes

/-- The block moved down by `lines` lines and `bytes` bytes. -/
def Block.shift (lines bytes : Nat) (b : Block) : Block where
  span := b.span.shift bytes
  body := b.body.shift bytes
  startLine := b.startLine + lines
  endLine := b.endLine + lines
  indent := b.indent

/-- The text is empty or ends in a newline, and every opening fence in it is a line of a
block. -/
structure EndsBetweenBlocks (text : Bytes) : Prop where
  whole : text = [] ∨ text.getLast? = some newline
  paired : ∀ i n, OpensAt text i n → ∃ b ∈ scanLines text, b.startLine ≤ i ∧ i ≤ b.endLine

theorem endsBetweenBlocks_iff {text : Bytes} :
    EndsBetweenBlocks text ↔
      (text = [] ∨ text.getLast? = some newline) ∧
        ∀ i : Fin (splitLines text).length, opens (signature (splitLines text)[i]) ≠ none →
          ∃ b ∈ scanLines text, b.startLine ≤ i ∧ i ≤ b.endLine := by
  constructor
  · intro h
    refine ⟨h.whole, fun i hi => ?_⟩
    obtain ⟨n, hn⟩ := Option.ne_none_iff_exists'.1 hi
    rw [opens_eq_some_iff, signature_eq_opening_iff] at hn
    exact h.paired i n ⟨_, List.getElem?_eq_getElem i.isLt, hn⟩
  · rintro ⟨hwhole, hpaired⟩
    refine ⟨hwhole, ?_⟩
    rintro i n ⟨line, hline, hopening⟩
    obtain ⟨hi, rfl⟩ := List.getElem?_eq_some_iff.1 hline
    apply hpaired ⟨i, hi⟩
    rw [← signature_eq_opening_iff, ← opens_eq_some_iff] at hopening
    exact Option.ne_none_iff_exists'.2 ⟨n, hopening⟩

instance (text : Bytes) : Decidable (EndsBetweenBlocks text) :=
  decidable_of_iff _ endsBetweenBlocks_iff.symm

theorem IsCut.endsInNewline_of_whole {lines : List Bytes} (h : IsCut lines)
    (hwhole : lines.flatten = [] ∨ lines.flatten.getLast? = some newline) :
    ∀ l ∈ lines, EndsInNewline l := by
  induction h with
  | nil => simp
  | @last line hmem hne =>
      rw [List.flatten_singleton] at hwhole
      rcases hwhole with hempty | hlast
      · exact absurd hempty hne
      · exact absurd (List.mem_of_getLast? hlast) hmem
  | @cons line rest hline hrest ih =>
      rw [List.forall_mem_cons]
      refine ⟨hline, ih ?_⟩
      rw [List.flatten_cons, List.append_eq_nil_iff, List.getLast?_append] at hwhole
      rcases hwhole with ⟨hempty, _⟩ | hlast
      · exact absurd hempty hline.ne_nil
      · cases hrest' : rest.flatten.getLast? with
        | none => exact .inl (List.getLast?_eq_none_iff.1 hrest')
        | some b =>
            rw [hrest', Option.some_or] at hlast
            exact .inr hlast

/-- Behind a whole line the lines of a text begin anew. -/
theorem splitLines_append {a : Bytes} (ha : a = [] ∨ a.getLast? = some newline) (b : Bytes) :
    splitLines (a ++ b) = splitLines a ++ splitLines b := by
  obtain ⟨hcuta, hflata⟩ := isCut_splitLines a
  obtain ⟨hcutb, hflatb⟩ := isCut_splitLines b
  have hlines : ∀ l ∈ splitLines a, EndsInNewline l :=
    hcuta.endsInNewline_of_whole (by rwa [hflata])
  have hcut : IsCut (splitLines a ++ splitLines b) := .append hlines hcutb
  rw [← hcut.splitLines_flatten, List.flatten_append, hflata, hflatb]

section Parts

variable {a b : List Part}

theorem partLines_append (a b : List Part) :
    partLines (a ++ b) = partLines a ++ partLines b :=
  List.flatMap_append

theorem placeParts_append (number start : Nat) (a b : List Part) :
    placeParts number start (a ++ b) = placeParts number start a ++
      placeParts (number + (partLines a).length) (start + (partLines a).flatten.length) b := by
  induction a generalizing number start with
  | nil => rfl
  | cons p a ih =>
      rw [List.cons_append, placeParts_cons, placeParts_cons, ih, List.append_assoc,
        partLines_cons, List.length_append, List.flatten_append, List.length_append,
        Nat.add_assoc, Nat.add_assoc]

theorem blockAt_add (number start lines bytes indent : Nat) (opening : Bytes)
    (body : List Bytes) (closing : Bytes) :
    blockAt (number + lines) (start + bytes) indent opening body closing =
      (blockAt number start indent opening body closing).shift lines bytes := by
  simp only [blockAt, Block.shift, Span.shift, Nat.add_right_comm]

/-- Parts that stand further down have their blocks further down. -/
theorem placeParts_add (number start lines bytes : Nat) (parts : List Part) :
    placeParts (number + lines) (start + bytes) parts =
      (placeParts number start parts).map (Block.shift lines bytes) := by
  induction parts generalizing number start with
  | nil => rfl
  | cons p parts ih =>
      rw [placeParts_cons, placeParts_cons, List.map_append, Nat.add_right_comm number,
        Nat.add_right_comm start, ih]
      cases p with
      | line text => rfl
      | block indent opening body closing =>
          rw [Part.place?, Part.place?, blockAt_add]
          rfl

/-- An outline goes on with another, if it has no opening fence outside of blocks. -/
theorem IsOutline.append (ha : IsOutline a)
    (hnone : ∀ text, .line text ∈ a → ∀ n, signature text ≠ some (.opening n))
    (hb : IsOutline b) : IsOutline (a ++ b) := by
  induction ha with
  | nil => exact hb
  | @line text parts hopen hparts ih =>
      refine .line ?_ (ih fun l hl => hnone l (List.mem_cons_of_mem _ hl))
      intro n hn
      exact absurd hn (hnone text List.mem_cons_self n)
  | block hopening hbody hclosing hparts ih =>
      exact .block hopening hbody hclosing (ih fun l hl => hnone l (List.mem_cons_of_mem _ hl))

end Parts

section Texts

variable {a b : Bytes}

/-- A line outside of the blocks of an outline is in none of the blocks that are found. -/
theorem IsOutline.not_mem_block {before after : List Part} {text : Bytes}
    (h : IsOutline (before ++ .line text :: after))
    (hlines : partLines (before ++ .line text :: after) = splitLines a) {block : Block}
    (hblock : block ∈ scanLines a) :
    ¬ (block.startLine ≤ (partLines before).length ∧ (partLines before).length ≤ block.endLine) := by
  rw [h.scanLines_eq_placeParts hlines, placeParts_append, placeParts_cons, List.mem_append,
    Part.place?, Option.toList_none, List.nil_append] at hblock
  rintro ⟨hstart, hend⟩
  rcases hblock with hblock | hblock
  · have hbounds := bounds_of_mem_placeParts hblock
    omega
  · have hbounds := bounds_of_mem_placeParts hblock
    rw [Part.lines, List.length_singleton] at hbounds
    omega

theorem EndsBetweenBlocks.signature_ne_opening (h : EndsBetweenBlocks a) {parts : List Part}
    (hparts : IsOutline parts) (hlines : partLines parts = splitLines a) :
    ∀ text, .line text ∈ parts → ∀ n, signature text ≠ some (.opening n) := by
  intro text hmem n hsignature
  obtain ⟨before, after, rfl⟩ := List.append_of_mem hmem
  have hopens : OpensAt a (partLines before).length n := by
    refine ⟨text, ?_, signature_eq_opening_iff.1 hsignature⟩
    rw [← hlines, partLines_append, List.getElem?_append_right (Nat.le_refl _), Nat.sub_self]
    rfl
  obtain ⟨block, hblock, hbounds⟩ := h.paired _ n hopens
  exact hparts.not_mem_block hlines hblock hbounds

/-- Outlines of both texts make one of the concatenation. -/
theorem EndsBetweenBlocks.isOutline_append (h : EndsBetweenBlocks a) {p q : List Part}
    (hp : IsOutline p) (hplines : partLines p = splitLines a) (hq : IsOutline q)
    (hqlines : partLines q = splitLines b) :
    IsOutline (p ++ q) ∧ partLines (p ++ q) = splitLines (a ++ b) := by
  constructor
  · exact hp.append (h.signature_ne_opening hp hplines) hq
  · rw [partLines_append, hplines, hqlines, splitLines_append h.whole]

theorem EndsBetweenBlocks.scanLines_append (h : EndsBetweenBlocks a) (b : Bytes) :
    scanLines (a ++ b) =
      scanLines a ++ (scanLines b).map (Block.shift (splitLines a).length a.length) := by
  obtain ⟨p, hp, hplines⟩ := exists_outline (splitLines a)
  obtain ⟨q, hq, hqlines⟩ := exists_outline (splitLines b)
  obtain ⟨hpq, hlines⟩ := h.isOutline_append hp hplines hq hqlines
  rw [hpq.scanLines_eq_placeParts hlines, hp.scanLines_eq_placeParts hplines,
    hq.scanLines_eq_placeParts hqlines, placeParts_append, placeParts_add, hplines,
    flatten_splitLines]

end Texts

end FencedDiff
