import FencedDiff.Proofs.Body.Realign
import FencedDiff.Proofs.Text.Difference

/-!
# Markers and the code behind them

Where only the marked lines of a body move, a line that is a marker, some spaces and code
gets `n` spaces in front, and the spaces between marker and code are made fewer by up to
`n` (`separation`). The first of them is kept, for it separates the two. So code that is
more than `n` spaces behind its marker stays in its column, other code moves right, and no
code comes to touch a marker that it did not touch before (`MovesMarker`).

A realigned body has these lines and no others (`realignBody_moves_markers`). A line that
moves begins with a space, which no marked line does, so the lines counted as changed are
all the marked ones, unless the fence is not indented.
-/

namespace FencedDiff

open Bytes

/-- The number of spaces between a marker that moves right by `n` and its code, where there
were `s`. -/
def separation (n s : Nat) : Nat := if s ≤ 1 then s else max 1 (s - n)

/-- The column in which the code behind a marker begins. -/
def codeColumn (content : Bytes) : Nat :=
  leadingSpaces content + 1 + leadingSpaces (content.drop (leadingSpaces content + 1))

/-- Whether there is a space between a marker and its code. -/
def isSeparated (content : Bytes) : Bool :=
  (content.drop (leadingSpaces content + 1)).head? == some space

/-- The second line is the first with its marker, if it has one, moved right by `n`. -/
structure MovesMarker (n : Nat) (old new : BodyLine) : Prop where
  ending_eq : new.ending = old.ending
  content_eq : old.kind ≠ .changed → new.content = old.content
  moved : old.kind = .changed → ∃ marker s code, (marker = minus ∨ marker = plus) ∧
    code.head? ≠ some space ∧ old.content = marker :: (spaces s ++ code) ∧
    new.content = spaces n ++ marker :: (spaces (separation n s) ++ code) ∧
    (n < s → codeColumn new.content = codeColumn old.content)
  codeColumn_le : old.kind = .changed → codeColumn old.content ≤ codeColumn new.content
  isSeparated_eq : old.kind = .changed → isSeparated new.content = isSeparated old.content

section Separation

variable (n s : Nat)

/-- As many spaces are dropped as there are beyond the first, at most `n`. -/
theorem separation_eq : separation n s = s - min n (s - 1) := by
  unfold separation
  split <;> omega

theorem le_add_separation : s ≤ n + separation n s := by
  rw [separation_eq]
  omega

variable {n s}

theorem add_separation_of_lt (h : n < s) : n + separation n s = s := by
  rw [separation_eq]
  omega

theorem separation_eq_zero_iff : separation n s = 0 ↔ s = 0 := by
  rw [separation_eq]
  omega

end Separation

theorem leadingSpaces_eq_zero {s : Bytes} (h : s.head? ≠ some space) : leadingSpaces s = 0 := by
  cases s with
  | nil => rfl
  | cons b s => exact leadingSpaces_cons_of_ne (by simpa using h) s

theorem head?_drop_leadingSpaces (s : Bytes) :
    (s.drop (leadingSpaces s)).head? ≠ some space := by
  induction s with
  | nil => simp
  | cons b s ih =>
      by_cases hb : b = space
      · rw [hb, leadingSpaces_space_cons]
        exact ih
      · rw [leadingSpaces_cons_of_ne hb]
        simpa using hb

section Marker

variable {marker : UInt8} {code : Bytes}

theorem leadingSpaces_marker_cons (hmarker : marker = minus ∨ marker = plus) (s : Bytes) :
    leadingSpaces (marker :: s) = 0 := by
  apply leadingSpaces_cons_of_ne
  rcases hmarker with rfl | rfl <;> decide

theorem leadingSpaces_spaces_marker (hmarker : marker = minus ∨ marker = plus) (n : Nat)
    (s : Bytes) : leadingSpaces (spaces n ++ marker :: s) = n := by
  rw [leadingSpaces_spaces_append, leadingSpaces_marker_cons hmarker, Nat.add_zero]

theorem drop_spaces_marker (n : Nat) (s : Bytes) :
    (spaces n ++ marker :: s).drop (n + 1) = s := by
  rw [← List.drop_drop, List.drop_left' (length_spaces n), List.drop_one, List.tail_cons]

theorem codeColumn_spaces_marker (hmarker : marker = minus ∨ marker = plus)
    (hcode : code.head? ≠ some space) (n s : Nat) :
    codeColumn (spaces n ++ marker :: (spaces s ++ code)) = n + 1 + s := by
  rw [codeColumn, leadingSpaces_spaces_marker hmarker, drop_spaces_marker,
    leadingSpaces_spaces_append, leadingSpaces_eq_zero hcode, Nat.add_zero s]

theorem isSeparated_spaces_marker (hmarker : marker = minus ∨ marker = plus)
    (hcode : code.head? ≠ some space) (n s : Nat) :
    isSeparated (spaces n ++ marker :: (spaces s ++ code)) = decide (s ≠ 0) := by
  rw [isSeparated, leadingSpaces_spaces_marker hmarker, drop_spaces_marker]
  cases s with
  | zero => simpa using hcode
  | succ s => rfl

/-- A marker moves right, and the spaces behind it become fewer. -/
theorem moveMarker_marker_cons (hcode : code.head? ≠ some space) (n s : Nat) :
    moveMarker n (marker :: (spaces s ++ code)) =
      spaces n ++ marker :: (spaces (separation n s) ++ code) := by
  have hdrop : (spaces s ++ code).drop (min n (s - 1)) = spaces (separation n s) ++ code := by
    rw [List.drop_append_of_le_length (by rw [length_spaces]; omega), separation_eq]
    simp [spaces]
  rw [moveMarker, leadingSpaces_spaces_append, leadingSpaces_eq_zero hcode, Nat.add_zero, hdrop]

end Marker

namespace BodyLine

/-- A marked line is a marker, spaces and code. -/
theorem exists_code_of_changed {l : BodyLine} (h : l.kind = .changed) :
    ∃ marker s code, (marker = minus ∨ marker = plus) ∧ code.head? ≠ some space ∧
      l.content = marker :: (spaces s ++ code) := by
  obtain ⟨marker, rest, hcontent, hmarker⟩ := LineKind.exists_marker_of_changed h
  refine ⟨marker, leadingSpaces rest, rest.drop (leadingSpaces rest), hmarker,
    head?_drop_leadingSpaces rest, ?_⟩
  rw [hcontent, spaces_append_drop]

theorem moved_of_changed {l : BodyLine} (h : l.kind = .changed) (n : Nat) :
    l.moved n = moveMarker n l.content := by
  rw [moved, h]

theorem movesMarker_moved (n : Nat) (l : BodyLine) : MovesMarker n l ⟨l.moved n, l.ending⟩ := by
  by_cases h : l.kind = .changed
  · obtain ⟨marker, s, code, hmarker, hcode, hold⟩ := exists_code_of_changed h
    have hnew : l.moved n = spaces n ++ marker :: (spaces (separation n s) ++ code) := by
      rw [moved_of_changed h, hold, moveMarker_marker_cons hcode]
    have hcolumn : codeColumn l.content = 0 + 1 + s := by
      rw [hold]
      exact codeColumn_spaces_marker hmarker hcode 0 s
    have hcolumn' : codeColumn (l.moved n) = n + 1 + separation n s := by
      rw [hnew, codeColumn_spaces_marker hmarker hcode]
    have hseparated : isSeparated l.content = decide (s ≠ 0) := by
      rw [hold]
      exact isSeparated_spaces_marker hmarker hcode 0 s
    refine ⟨rfl, fun hne => absurd h hne, fun _ => ⟨marker, s, code, hmarker, hcode, hold, hnew,
      fun hlt => ?_⟩, fun _ => ?_, fun _ => ?_⟩
    · have := add_separation_of_lt hlt
      dsimp only
      omega
    · have := le_add_separation n s
      dsimp only
      omega
    · rw [hseparated, hnew, isSeparated_spaces_marker hmarker hcode, decide_eq_decide,
        not_iff_not, separation_eq_zero_iff]
  · exact ⟨rfl, fun _ => moved_of_ne_changed h n, fun h' => absurd h' h, fun h' => absurd h' h,
      fun h' => absurd h' h⟩

/-- A marker that moves is behind a space afterwards. -/
theorem moved_succ_ne_iff {n : Nat} {l : BodyLine} :
    l.moved (n + 1) ≠ l.content ↔ l.kind = .changed := by
  constructor
  · intro hne
    by_contra h
    exact hne (moved_of_ne_changed h _)
  · intro h heq
    have hkind := l.kind_moved_ne_changed n
    rw [heq] at hkind
    exact hkind h

end BodyLine

theorem changedLines_moveChangedLines (n : Nat) (body : Bytes) :
    (moveChangedLines n body).changedLines =
      if n = 0 then 0 else (bodyLines body).countP fun l => l.kind = .changed := by
  cases n with
  | zero =>
      rw [if_pos rfl, moveChangedLines, List.countP_eq_zero]
      simp [BodyLine.moved_zero]
  | succ n =>
      rw [if_neg (Nat.succ_ne_zero n), moveChangedLines]
      apply List.countP_congr
      intro l _
      rw [bne_iff_ne, BodyLine.moved_succ_ne_iff, decide_eq_true_iff]

/-- Where only marked lines move, a realigned body has the lines of the body, each with its
marker moved. The lines counted as changed are those whose content differs, and these are
all the marked lines if the fence is indented, and none if it is not. -/
theorem realignBody_moves_markers {options : Options} (hpolicy : options.policy = .changedLines)
    {n : Nat} (hn : n ≤ options.limits.maxFenceIndent.toNat) (body : Bytes) :
    ∃ r, realignBody options n body = .ok r ∧
      List.Forall₂ (MovesMarker n) (bodyLines body) (bodyLines r.text) ∧
      r.changedLines = differences ((bodyLines body).map BodyLine.content)
        ((bodyLines r.text).map BodyLine.content) ∧
      r.changedLines = if n = 0 then 0 else (bodyLines body).countP fun l => l.kind = .changed := by
  have hlines := Policy.bodyLines_realign .changedLines n body
  refine ⟨moveChangedLines n body, ?_, ?_, ?_, changedLines_moveChangedLines n body⟩
  · rw [realignBody_of_le hn, hpolicy]
    rfl
  · change List.Forall₂ _ _ (bodyLines (Policy.realign .changedLines n body).text)
    rw [hlines, List.forall₂_map_right_iff, List.forall₂_same]
    exact fun l _ => l.movesMarker_moved n
  · change _ = differences _ ((bodyLines (Policy.realign .changedLines n body).text).map _)
    rw [hlines, List.map_map, differences_map_map]
    apply List.countP_congr
    intro l _
    rw [bne_comm]
    rfl

/-- A body with every kind of line: code far behind its marker and code near it, a marker
with only spaces behind it and one with a carriage return, and no newline at the end. -/
def markedLines : Bytes :=
  minus :: spaces 5 ++ [0x61, newline, plus, space, 0x62, newline] ++
    minus :: spaces 3 ++ [newline, plus, carriageReturn, newline, space, 0x63, newline] ++
    [minus, minus, minus, newline, newline, minus, 0x64]

def markedLinesMoved : Bytes :=
  spaces 2 ++ minus :: spaces 3 ++ [0x61, newline] ++ spaces 2 ++ [plus, space, 0x62, newline] ++
    spaces 2 ++ [minus, space, newline] ++ spaces 2 ++
    [plus, carriageReturn, newline, space, 0x63, newline] ++
    [minus, minus, minus, newline, newline] ++ spaces 2 ++ [minus, 0x64]

theorem realignBody_moves_markers_markedLines :
    realignBody {} 2 markedLines = .ok ⟨markedLinesMoved, 5⟩ ∧
      List.Forall₂ (MovesMarker 2) (bodyLines markedLines) (bodyLines markedLinesMoved) ∧
      5 = differences ((bodyLines markedLines).map BodyLine.content)
        ((bodyLines markedLinesMoved).map BodyLine.content) := by
  have hrealign : realignBody {} 2 markedLines = .ok ⟨markedLinesMoved, 5⟩ := by decide
  obtain ⟨r, hr, hlines, hdiff, _⟩ :=
    @realignBody_moves_markers {} rfl 2 (by decide) markedLines
  rw [hrealign] at hr
  cases hr
  exact ⟨hrealign, hlines, hdiff⟩

end FencedDiff
