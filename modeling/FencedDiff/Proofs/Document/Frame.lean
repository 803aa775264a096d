import FencedDiff.Proofs.Document.Outcome
import FencedDiff.Proofs.Fence.Pairing

/-!
# What a pass leaves alone

A pass keeps the number of lines, the endings of all lines, every line outside
of the bodies, and every byte that is no space (`format_frame`). The first two
and the last follow from lines being respaced one by one, whatever the policy.
That the other lines are the same hangs on where the blocks are: the bodies of
an outline take up exactly the lines between their fences.
-/

namespace FencedDiff

open Bytes

/-- The new text differs from the old one in spaces in bodies only: lines keep their
numbers and endings, lines outside of bodies are the same, and so is everything
but the spaces. -/
structure ChangesSpacesOnly (old new : Bytes) : Prop where
  length_eq : (splitLines new).length = (splitLines old).length
  outside : ∀ l ∈ documentLines old, (∀ b ∈ scanLines old, b.body.contains l.span = false) →
    (splitLines new)[l.number]? = some l.text
  ending_eq : (splitLines new).map lineEnding = (splitLines old).map lineEnding
  filter_eq : new.filter (· != space) = old.filter (· != space)

/-- The lines of a part that are not between two fences are kept. -/
theorem Part.getElem?_lines_realign (policy : Policy) {p : Part} {i number start : Nat}
    (hi : i < p.lines.length)
    (h : ∀ b ∈ p.place? number start, ¬ (b.startLine < number + i ∧ number + i < b.endLine)) :
    (p.realign policy).lines[i]? = p.lines[i]? := by
  cases p with
  | line text => rfl
  | block indent opening body closing =>
      cases i with
      | zero => rfl
      | succ i =>
          have hbody : ¬ i < body.length := by
            intro hlt
            apply h _ rfl
            dsimp only [blockAt]
            omega
          rw [lines, List.length_cons, List.length_append, List.length_singleton] at hi
          obtain rfl : i = body.length := by omega
          have hclosing : (policy.reline indent body ++ [closing])[body.length]? =
              some closing := by
            rw [List.getElem?_append_right (by simp), policy.length_reline, Nat.sub_self]
            rfl
          rw [realign, lines, lines, List.getElem?_cons_succ, List.getElem?_cons_succ, hclosing,
            List.getElem?_append_right (Nat.le_refl _), Nat.sub_self]
          rfl

theorem getElem?_realignLines (policy : Policy) {parts : List Part} (number start : Nat) {i : Nat}
    (h : ∀ b ∈ placeParts number start parts,
      ¬ (b.startLine < number + i ∧ number + i < b.endLine)) :
    (realignLines policy parts)[i]? = (partLines parts)[i]? := by
  induction parts generalizing i number start with
  | nil => rfl
  | cons p parts ih =>
      rw [placeParts_cons, List.forall_mem_append] at h
      rw [realignLines_cons, partLines_cons]
      by_cases hi : i < p.lines.length
      · rw [List.getElem?_append_left (by simpa using hi), List.getElem?_append_left hi]
        apply Part.getElem?_lines_realign policy hi
        simpa using h.1
      · rw [Nat.not_lt] at hi
        rw [List.getElem?_append_right (by simpa using hi), List.getElem?_append_right hi,
          Part.length_lines_realign]
        apply ih (number + p.lines.length) (start + p.lines.flatten.length)
        intro b hb
        have hb' := h.2 b hb
        omega

section Format

variable {options : Options} {text : Bytes} {f : Formatted}

/-- The lines of a formatted document, by an outline of the old one. -/
theorem splitLines_of_format (h : format options text = .ok f) {parts : List Part}
    (hparts : IsOutline parts) (hlines : partLines parts = splitLines text) :
    splitLines f.text = splitLines text ∨
      splitLines f.text = realignLines options.policy parts := by
  rcases format_eq_ok_cases h with rfl | ⟨_, rfl⟩
  · exact .inl rfl
  · have hcut := isCut_partLines hlines
    rw [hparts.text_formatted hlines, (hcut.realignLines _).splitLines_flatten]
    exact .inr rfl

theorem respaces_of_format (h : format options text = .ok f) :
    List.Forall₂ RespacesLine (splitLines text) (splitLines f.text) := by
  obtain ⟨parts, hparts, hlines⟩ := exists_outline (splitLines text)
  rcases splitLines_of_format h hparts hlines with heq | heq
  · rw [heq, List.forall₂_same]
    exact fun line _ => .refl line
  · rw [heq, ← hlines]
    exact respaces_realignLines options.policy parts

theorem getElem?_of_format (h : format options text = .ok f) {l : Line}
    (hl : l ∈ documentLines text)
    (hout : ∀ b ∈ scanLines text, b.body.contains l.span = false) :
    (splitLines f.text)[l.number]? = some l.text := by
  obtain ⟨parts, hparts, hlines⟩ := exists_outline (splitLines text)
  rw [← (mem_documentLines hl).1]
  rcases splitLines_of_format h hparts hlines with heq | heq
  · rw [heq]
  · rw [heq, ← hlines]
    apply getElem?_realignLines options.policy 0 0
    intro b hb hbetween
    rw [← hparts.scanLines_eq_placeParts hlines] at hb
    rw [Nat.zero_add, ← contains_body_iff hb hl, hout b hb] at hbetween
    cases hbetween

theorem text_eq_of_format (h : format options text = .ok f) (hnone : scanLines text = []) :
    f.text = text := by
  rcases format_eq_ok_cases h with rfl | ⟨_, rfl⟩
  · rfl
  · rw [hnone]
    rfl

/-- A pass changes nothing but spaces in bodies, and nothing at all where no block
is found. -/
theorem format_frame (h : format options text = .ok f) :
    ChangesSpacesOnly text f.text ∧
      (scan options text = .ok [] ∨ scanLines text = [] → f.text = text) := by
  have hrespaces := respaces_of_format h
  have hfilter := filter_flatten_of_respaced hrespaces
  rw [flatten_splitLines, flatten_splitLines] at hfilter
  constructor
  · exact ⟨hrespaces.length_eq.symm, fun l hl hout => getElem?_of_format h hl hout,
      map_lineEnding_of_respaced hrespaces, hfilter⟩
  · rintro (hscan | hnone)
    · rcases scan_eq options text with hlines | ⟨e, herror⟩
      · rw [hlines, Except.ok.injEq] at hscan
        exact text_eq_of_format h hscan
      · rw [herror] at hscan
        cases hscan
    · exact text_eq_of_format h hnone

end Format

/-- An indented block with carriage returns, and behind it an opening fence that is
never closed. -/
def unclosedTail : Bytes :=
  space :: ticks ++ tag ++ [carriageReturn, newline, minus, 0x61, carriageReturn, newline] ++
    ticks ++ [newline] ++ ticks ++ tag ++ [newline, minus, 0x61]

def unclosedTailFormatted : Bytes :=
  space :: ticks ++ tag ++ [carriageReturn, newline, space, minus, 0x61, carriageReturn, newline] ++
    ticks ++ [newline] ++ ticks ++ tag ++ [newline, minus, 0x61]

theorem format_frame_unclosedTail :
    format {} unclosedTail = .ok ⟨unclosedTailFormatted, ⟨1, 1, 1, false⟩⟩ ∧
      ChangesSpacesOnly unclosedTail unclosedTailFormatted := by
  have h : format {} unclosedTail = .ok ⟨unclosedTailFormatted, ⟨1, 1, 1, false⟩⟩ := by
    decide
  exact ⟨h, (format_frame h).1⟩

end FencedDiff
