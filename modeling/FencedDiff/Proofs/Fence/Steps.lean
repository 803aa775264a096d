import FencedDiff.Proofs.Text.Cut
import FencedDiff.Proofs.Fence.Grammar

/-!
# What a scan with backtracking costs

The backtracking scanner charges a step for each byte that it reads, also where it returns
and reads the byte again. Here its steps are counted line by line, without a cursor and
without a limit (`scanSteps`).

A line outside of blocks is read as far as it looks like an opening fence, and then as a
whole. Behind an opening fence each line is read as far as it looks like a closing fence,
and then as a whole, up to the closing fence or the end of the text. If it is the closing
fence that comes first, those were the lines of a block. If it is the end, all of this was
in vain, and the scan goes on behind the opening fence.
-/

namespace FencedDiff

open Bytes

/-- The steps of an attempt at an opening fence before a line. -/
def openingSteps (line : Bytes) : Nat :=
  let fence := line.drop (leadingSpaces line)
  if (ticks ++ tag).isPrefixOf fence then line.length
  else leadingSpaces line + if ticks.isPrefixOf fence then ticks.length else 0

/-- The number of blanks that a text begins with, and of carriage returns behind them. -/
def blanksAndReturns (s : Bytes) : Nat :=
  (s.takeWhile isBlankByte).length +
    ((s.dropWhile isBlankByte).takeWhile (· == carriageReturn)).length

/-- The steps of an attempt at a closing fence before a line. -/
def closingSteps (line : Bytes) : Nat :=
  let fence := line.drop (leadingSpaces line)
  if closes (signature line) then line.length
  else leadingSpaces line +
    if ticks.isPrefixOf fence then ticks.length + blanksAndReturns (fence.drop ticks.length) else 0

/-- The steps that it takes to skip a line. Where there is no newline, finding this out takes
one. -/
def skipSteps (line : Bytes) : Nat :=
  if line.getLast? = some newline then line.length else line.length + 1

/-- The steps of a search for a closing fence. -/
def searchSteps : List Bytes → Nat
  | [] => 0
  | line :: lines =>
    closingSteps line +
      if closes (signature line) then 0 else skipSteps line + searchSteps lines

/-- The line is an opening fence with its newline. -/
def isOpeningLine (line : Bytes) : Bool :=
  (opens (signature line)).isSome && line.getLast? == some newline

/-- The steps of a scan of lines, from within a block or from outside. A block is charged where
it begins, with the search for its end; its other lines cost no more. -/
def stepsFrom : (inBlock : Bool) → List Bytes → Nat
  | _, [] => 0
  | true, line :: lines => stepsFrom (!closes (signature line)) lines
  | false, line :: lines =>
    if isOpeningLine line then
      openingSteps line + searchSteps lines +
        if lines.any fun l => closes (signature l) then stepsFrom true lines
        else line.length + stepsFrom false lines
    else openingSteps line + line.length + stepsFrom false lines

/-- The steps that it takes to scan a text with backtracking. -/
def scanSteps (text : Bytes) : Nat := stepsFrom false (splitLines text)

theorem isOpeningLine_iff {line : Bytes} :
    isOpeningLine line = true ↔
      (∃ n, signature line = some (.opening n)) ∧ line.getLast? = some newline := by
  simp [isOpeningLine, Option.isSome_iff_exists]

theorem closes_eq_false_iff {s : Option Signature} : closes s = false ↔ s ≠ some .closing := by
  rw [Bool.eq_false_iff, ne_eq, closes_eq_true_iff]

section Attempts

variable {line : Bytes} {n : Nat}

/-- An opening fence is read as a whole. -/
theorem openingSteps_of_opening (h : signature line = some (.opening n)) :
    openingSteps line = line.length := by
  obtain ⟨rest, rfl⟩ := signature_eq_opening_iff.1 h
  rw [openingSteps, List.append_assoc, List.append_assoc, leadingSpaces_spaces_ticks,
    drop_spaces_append, ← List.append_assoc, if_pos]
  exact List.isPrefixOf_iff_prefix.2 (List.prefix_append ..)

/-- A closing fence is read as a whole. -/
theorem closingSteps_of_closing (h : signature line = some .closing) :
    closingSteps line = line.length :=
  if_pos (closes_eq_true_iff.2 h)

/-- Another line is read up to what cannot stand in a closing fence. -/
theorem closingSteps_of_not_closing (h : signature line ≠ some .closing) :
    closingSteps line = leadingSpaces line +
      if ticks.isPrefixOf (line.drop (leadingSpaces line)) then
        ticks.length + blanksAndReturns ((line.drop (leadingSpaces line)).drop ticks.length)
      else 0 :=
  if_neg fun hcloses => h (closes_eq_true_iff.1 hcloses)

theorem skipSteps_of_endsInNewline (h : EndsInNewline line) : skipSteps line = line.length :=
  if_pos h.getLast?

theorem skipSteps_of_notMem (h : newline ∉ line) : skipSteps line = line.length + 1 :=
  if_neg fun hlast => h (List.mem_of_getLast? hlast)

end Attempts

section Lines

variable {line closing : Bytes} {body lines : List Bytes}

theorem searchSteps_cons_of_closing (h : signature line = some .closing) :
    searchSteps (line :: lines) = line.length := by
  rw [searchSteps, closingSteps_of_closing h, if_pos (closes_eq_true_iff.2 h), Nat.add_zero]

theorem searchSteps_cons_of_not_closing (h : signature line ≠ some .closing) :
    searchSteps (line :: lines) = closingSteps line + (skipSteps line + searchSteps lines) := by
  rw [searchSteps, if_neg]
  rwa [closes_eq_true_iff]

theorem any_closes_eq_false (h : ∀ l ∈ lines, signature l ≠ some .closing) :
    (lines.any fun l => closes (signature l)) = false := by
  rw [List.any_eq_false]
  exact fun l hl => by simpa using h l hl

/-- A block is left at its closing fence. -/
theorem stepsFrom_true_append (hbody : ∀ l ∈ body, signature l ≠ some .closing)
    (hclosing : signature closing = some .closing) :
    stepsFrom true (body ++ closing :: lines) = stepsFrom false lines := by
  induction body with
  | nil => rw [List.nil_append, stepsFrom, closes_eq_true_iff.2 hclosing, Bool.not_true]
  | cons l body ih =>
      rw [List.forall_mem_cons] at hbody
      rw [List.cons_append, stepsFrom, closes_eq_false_iff.2 hbody.1, Bool.not_false, ih hbody.2]

theorem stepsFrom_line (h : ¬ isOpeningLine line = true) :
    stepsFrom false (line :: lines) =
      openingSteps line + (line.length + stepsFrom false lines) := by
  rw [stepsFrom, if_neg h, Nat.add_assoc]

theorem stepsFrom_unclosed (h : isOpeningLine line = true)
    (hnone : ∀ l ∈ lines, signature l ≠ some .closing) :
    stepsFrom false (line :: lines) =
      openingSteps line + searchSteps lines + (line.length + stepsFrom false lines) := by
  rw [stepsFrom, if_pos h, any_closes_eq_false hnone]
  rfl

theorem stepsFrom_block (h : isOpeningLine line = true)
    (hbody : ∀ l ∈ body, signature l ≠ some .closing)
    (hclosing : signature closing = some .closing) :
    stepsFrom false (line :: (body ++ closing :: lines)) =
      openingSteps line + searchSteps (body ++ closing :: lines) + stepsFrom false lines := by
  have hany : ((body ++ closing :: lines).any fun l => closes (signature l)) = true :=
    List.any_eq_true.2 ⟨closing, by simp, closes_eq_true_iff.2 hclosing⟩
  rw [stepsFrom, if_pos h, hany, if_pos rfl, stepsFrom_true_append hbody hclosing]

end Lines

/-! ### Bounds -/

section Bounds

variable {line closing : Bytes} {body lines : List Bytes}

theorem length_eq_leadingSpaces_add (line : Bytes) :
    line.length = leadingSpaces line + (line.drop (leadingSpaces line)).length := by
  rw [List.length_drop, Nat.add_sub_cancel' (leadingSpaces_le_length line)]

theorem blanksAndReturns_le_length (s : Bytes) : blanksAndReturns s ≤ s.length := by
  have hsplit : s.length = (s.takeWhile isBlankByte).length + (s.dropWhile isBlankByte).length := by
    rw [← List.length_append, List.takeWhile_append_dropWhile]
  rw [hsplit]
  exact Nat.add_le_add_left (List.takeWhile_prefix _).length_le _

theorem openingSteps_le_length (line : Bytes) : openingSteps line ≤ line.length := by
  rw [openingSteps]
  by_cases hfence : (ticks ++ tag).isPrefixOf (line.drop (leadingSpaces line)) = true
  · rw [if_pos hfence]
  · rw [if_neg hfence, length_eq_leadingSpaces_add line]
    apply Nat.add_le_add_left
    split
    · rename_i hticks
      exact (List.isPrefixOf_iff_prefix.1 hticks).length_le
    · exact Nat.zero_le _

theorem closingSteps_le_length (line : Bytes) : closingSteps line ≤ line.length := by
  by_cases hclosing : signature line = some .closing
  · rw [closingSteps_of_closing hclosing]
  · rw [closingSteps_of_not_closing hclosing, length_eq_leadingSpaces_add line]
    apply Nat.add_le_add_left
    split
    · rename_i hticks
      obtain ⟨rest, hrest⟩ := List.isPrefixOf_iff_prefix.1 hticks
      rw [← hrest, List.drop_left, List.length_append]
      exact Nat.add_le_add_left (blanksAndReturns_le_length rest) _
    · exact Nat.zero_le _

/-- A search reads a line twice at most. One step more finds out that the last line has no
newline. -/
theorem searchSteps_le (h : IsCut lines) : searchSteps lines ≤ 2 * lines.flatten.length + 1 := by
  induction h with
  | nil => exact Nat.zero_le _
  | @last line hline _ =>
      have hclosing := closingSteps_le_length line
      rw [searchSteps, searchSteps, skipSteps_of_notMem hline, List.flatten_singleton]
      split <;> omega
  | @cons line lines hline _ ih =>
      have hclosing := closingSteps_le_length line
      rw [searchSteps, skipSteps_of_endsInNewline hline, List.flatten_cons, List.length_append]
      split <;> omega

/-- A search that succeeds comes to no line without newline, or reads it as a closing fence. -/
theorem searchSteps_append_le (h : IsCut (body ++ closing :: lines))
    (hclosing : signature closing = some .closing) :
    searchSteps (body ++ closing :: lines) ≤ 2 * (body.flatten.length + closing.length) := by
  induction body with
  | nil =>
      rw [List.nil_append, searchSteps_cons_of_closing hclosing]
      omega
  | cons line body ih =>
      have hline := closingSteps_le_length line
      have hrest := ih h.tail
      rw [List.cons_append, searchSteps, skipSteps_of_endsInNewline h.endsInNewline_before,
        List.flatten_cons, List.length_append]
      split <;> omega

end Bounds

end FencedDiff
