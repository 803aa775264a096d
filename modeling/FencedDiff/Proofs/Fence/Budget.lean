import FencedDiff.Fence.Scan
import FencedDiff.Proofs.Fence.Agreement
import Mathlib.Tactic.Ring

/-!
# Budgets that suffice

The backtracking scanner reads a byte at most twice, except behind an opening fence that
is never closed: from there it reads to the end of the text before it gives up on the
fence. So the steps of a scan are bounded by the length of the text and the number of
these fences (`scanBacktracking_bounded`), and so is the factor of a budget that lets the
scan finish. For a document that is not too long this bound is also what keeps the counter
of the scan from an overflow, so that the steps of the document, `scanSteps`, are the least
limit under which it is scanned (`scanBacktracking_threshold`).

`unclosedOpenings` counts the fences by the lines and the blocks of the text. On an
outline they are the parts that cost a scan to the end (`IsOutline.unclosedOpenings_eq`).
Each of them has eight bytes or more, which keeps the product below the greatest word.
-/

namespace FencedDiff

open Bytes

/-- The line is an opening fence with its newline, and in none of the blocks. -/
def Line.isUnclosed (blocks : List Block) (l : Line) : Bool :=
  isOpeningLine l.text &&
    blocks.all fun b => l.number < b.startLine || b.endLine < l.number

/-- The number of opening fences of a text that are not closed. -/
def unclosedOpenings (text : Bytes) : Nat :=
  (documentLines text).countP (Line.isUnclosed (scanLines text))

/-- The part is an opening fence with its newline outside of blocks, one that is
never closed. -/
def Part.isUnclosed : Part → Bool
  | .line text => isOpeningLine text
  | .block _ _ _ _ => false

theorem number_of_mem_placeLines {number start : Nat} {lines : List Bytes} {l : Line}
    (h : l ∈ placeLines number start lines) :
    number ≤ l.number ∧ l.number < number + lines.length := by
  induction lines generalizing number start with
  | nil => cases h
  | cons text lines ih =>
      rw [placeLines, List.mem_cons] at h
      rw [List.length_cons]
      rcases h with rfl | h
      · exact ⟨Nat.le_refl _, Nat.lt_add_of_pos_right (Nat.succ_pos _)⟩
      · have := ih h
        omega

theorem Line.isUnclosed_eq_false {blocks : List Block} {l : Line} {b : Block} (hb : b ∈ blocks)
    (hstart : b.startLine ≤ l.number) (hend : l.number ≤ b.endLine) :
    l.isUnclosed blocks = false := by
  rw [isUnclosed, Bool.and_eq_false_iff]
  right
  rw [List.all_eq_false]
  exact ⟨b, hb, by simp [hstart, hend]⟩

/-- A line outside of blocks is judged by its text. -/
theorem Line.isUnclosed_eq_of_forall {blocks : List Block} {l : Line}
    (h : ∀ b ∈ blocks, l.number < b.startLine ∨ b.endLine < l.number) :
    l.isUnclosed blocks = (Part.line l.text).isUnclosed := by
  have hall : (blocks.all fun b => l.number < b.startLine || b.endLine < l.number) = true := by
    rw [List.all_eq_true]
    intro b hb
    simpa using h b hb
  rw [isUnclosed, hall, Bool.and_true]
  rfl

/-- Of the lines of a part one at most is an unclosed fence: that of a part which is one. The
other blocks of the text end before the part or begin behind it. -/
theorem Part.countP_isUnclosed_lines (p : Part) (number start : Nat) {blocks : List Block}
    (hplace : ∀ b ∈ p.place? number start, b ∈ blocks)
    (hothers : ∀ b ∈ blocks, b ∈ p.place? number start ∨ b.endLine < number ∨
      number + p.lines.length ≤ b.startLine) :
    (placeLines number start p.lines).countP (Line.isUnclosed blocks) =
      if p.isUnclosed then 1 else 0 := by
  cases p with
  | line text =>
      have houtside : ∀ b ∈ blocks, number < b.startLine ∨ b.endLine < number := by
        intro b hb
        rcases hothers b hb with hplace | hbefore | hbehind
        · cases hplace
        · exact .inr hbefore
        · exact .inl hbehind
      rw [lines, placeLines, placeLines_nil, List.countP_singleton,
        Line.isUnclosed_eq_of_forall houtside]
  | block indent opening body closing =>
      have hblock := hplace _ rfl
      rw [isUnclosed, if_neg Bool.false_ne_true, List.countP_eq_zero]
      intro l hl
      obtain ⟨hstart, hend⟩ := number_of_mem_placeLines hl
      rw [lines, List.length_cons, List.length_append, List.length_singleton] at hend
      rw [Line.isUnclosed_eq_false hblock hstart (by simp only [blockAt]; omega)]
      exact Bool.false_ne_true

/-- The unclosed fences among the lines of parts, which come behind the blocks `before`,
are parts of their own. -/
theorem countP_isUnclosed_placeLines (parts : List Part) (number start : Nat)
    {before : List Block} (hbefore : ∀ b ∈ before, b.endLine < number) :
    (placeLines number start (partLines parts)).countP
        (Line.isUnclosed (before ++ placeParts number start parts)) =
      parts.countP Part.isUnclosed := by
  induction parts generalizing number start before with
  | nil => rfl
  | cons p parts ih =>
      -- behind the part its block, if it has one, is a block before the others
      have hbefore' : ∀ b ∈ before ++ (p.place? number start).toList,
          b.endLine < number + p.lines.length := by
        intro b hb
        rcases List.mem_append.1 hb with hb | hb
        · exact Nat.lt_add_right _ (hbefore b hb)
        · have hb' : b ∈ placeParts number start [p] := List.mem_append_left _ hb
          have hbounds := (bounds_of_mem_placeParts hb').2.2.1
          rwa [partLines_cons, partLines_nil, List.append_nil] at hbounds
      have hplace : ∀ b ∈ p.place? number start,
          b ∈ before ++ placeParts number start (p :: parts) := by
        intro b hb
        simp [placeParts_cons, Option.mem_toList.2 hb]
      have hothers : ∀ b ∈ before ++ placeParts number start (p :: parts),
          b ∈ p.place? number start ∨ b.endLine < number ∨
            number + p.lines.length ≤ b.startLine := by
        intro b hb
        rw [placeParts_cons, List.mem_append, List.mem_append, Option.mem_toList] at hb
        rcases hb with hb | hb | hb
        · exact .inr (.inl (hbefore b hb))
        · exact .inl hb
        · exact .inr (.inr (bounds_of_mem_placeParts hb).1)
      rw [partLines_cons, placeLines_append, List.countP_append,
        p.countP_isUnclosed_lines number start hplace hothers, placeParts_cons,
        ← List.append_assoc, ih _ _ hbefore', List.countP_cons, Nat.add_comm]

section Outline

variable {parts : List Part} {text : Bytes}

theorem IsOutline.unclosedOpenings_eq (h : IsOutline parts)
    (hlines : partLines parts = splitLines text) :
    unclosedOpenings text = parts.countP Part.isUnclosed := by
  rw [unclosedOpenings, documentLines, h.scanLines_eq_placeParts hlines, ← hlines]
  exact countP_isUnclosed_placeLines parts 0 0 (List.forall_mem_nil _)

/-- The steps of a scan are bounded by any number of bytes `total` that the document does not
exceed, so that the bound for the rest of the document can be used for the whole. -/
theorem IsOutline.stepsFrom_le (h : IsOutline parts) (hcut : IsCut (partLines parts)) {total : Nat}
    (htotal : (partLines parts).flatten.length ≤ total) :
    stepsFrom false (partLines parts) ≤ 2 * (partLines parts).flatten.length +
      parts.countP Part.isUnclosed * (2 * total + 1) := by
  induction h with
  | nil => exact Nat.zero_le _
  | @line text parts hopen hparts ih =>
      rw [partLines_cons, Part.lines, List.singleton_append] at hcut htotal ⊢
      rw [List.flatten_cons, List.length_append] at htotal ⊢
      have hrest := ih hcut.tail (by omega)
      have hopening := openingSteps_le_length text
      rw [List.countP_cons]
      by_cases hu : (Part.line text).isUnclosed = true
      · obtain ⟨⟨n, hn⟩, _⟩ := isOpeningLine_iff.1 hu
        have hsearch := searchSteps_le hcut.tail
        rw [stepsFrom_unclosed hu (hopen n hn), if_pos hu, Nat.add_mul, Nat.one_mul]
        omega
      · rw [stepsFrom_line hu, if_neg hu, Nat.add_zero]
        omega
  | @block n opening body closing parts hopening hbody hclosing hparts ih =>
      rw [partLines_cons, Part.lines, List.cons_append, List.append_assoc,
        List.singleton_append] at hcut htotal ⊢
      have hsearch := searchSteps_append_le hcut.tail hclosing
      have hopen := openingSteps_le_length opening
      rw [stepsFrom_block (isOpeningLine_iff.2 ⟨⟨n, hopening⟩, hcut.endsInNewline_before.getLast?⟩)
        hbody hclosing, List.countP_cons_of_neg (by simp [Part.isUnclosed])]
      simp only [List.flatten_cons, List.flatten_append, List.length_append] at htotal ⊢
      have hlines : IsCut ((opening :: body) ++ closing :: partLines parts) := hcut
      have hrest := ih hlines.of_append.tail (by omega)
      omega

/-- An unclosed fence has its backticks, its tag and its newline. -/
theorem Part.le_length_of_isUnclosed {p : Part} (h : p.isUnclosed = true) :
    8 ≤ p.lines.flatten.length := by
  cases p with
  | block indent opening body closing => cases h
  | line text =>
      obtain ⟨⟨n, hn⟩, hlast⟩ := isOpeningLine_iff.1 h
      obtain ⟨rest, rfl⟩ := signature_eq_opening_iff.1 hn
      have hrest : rest ≠ [] := by
        rintro rfl
        simp [tag, newline] at hlast
      have := List.length_pos_iff.2 hrest
      simp [lines, ticks, tag]
      omega

theorem countP_isUnclosed_mul_le (parts : List Part) :
    parts.countP Part.isUnclosed * 8 ≤ (partLines parts).flatten.length := by
  induction parts with
  | nil => exact Nat.zero_le _
  | cons p parts ih =>
      rw [partLines_cons, List.flatten_append, List.length_append, List.countP_cons]
      split
      · rename_i hp
        have := Part.le_length_of_isUnclosed hp
        omega
      · omega

end Outline

theorem unclosedOpenings_mul_le (text : Bytes) : unclosedOpenings text * 8 ≤ text.length := by
  obtain ⟨parts, hparts, hlines⟩ := exists_outline (splitLines text)
  have h := countP_isUnclosed_mul_le parts
  rwa [flatten_partLines hlines, ← hparts.unclosedOpenings_eq hlines] at h

/-- Two steps for each byte are enough, and as many again and one for each unclosed fence. -/
theorem scanSteps_le (text : Bytes) :
    scanSteps text ≤ 2 * text.length + unclosedOpenings text * (2 * text.length + 1) := by
  obtain ⟨parts, hparts, hlines⟩ := exists_outline (splitLines text)
  have hflat := flatten_partLines hlines
  have h := hparts.stepsFrom_le (isCut_partLines hlines) (Nat.le_of_eq (congrArg _ hflat))
  rwa [hflat, hlines, ← hparts.unclosedOpenings_eq hlines] at h

theorem scanBacktracking_eq_ok_of_le {text : Bytes} {limit : Nat}
    (h : scanSteps text ≤ limit) : scanBacktracking text limit = .ok (scanLines text) := by
  rw [scanBacktracking_eq_charge, Backtracking.charge, Nat.zero_add, if_pos h]

theorem scanBacktracking_eq_error_of_lt {text : Bytes} {limit : Nat}
    (h : limit < scanSteps text) : scanBacktracking text limit = .error ⟨limit + 1, limit⟩ := by
  rw [scanBacktracking_eq_charge, Backtracking.charge, Nat.zero_add, if_neg (Nat.not_le.2 h)]

/-- The steps of a document that is not too long can be counted in a word. -/
theorem lt_maxWord {length k : Nat} (hlength : length ≤ 2 ^ 32) (hk : k * 8 ≤ length) :
    2 * length + k * (2 * length + 1) < maxWord := by
  have hproduct : k * (2 * length + 1) ≤ 2 ^ 29 * (2 * 2 ^ 32 + 1) :=
    Nat.mul_le_mul (by omega) (by omega)
  rw [maxWord]
  omega

/-- The budget of a document that is not too long covers those steps, and is not cut off
before by the greatest word. -/
theorem Limits.le_scanBudget {limits : Limits} {length k : Nat} (hlength : length ≤ 2 ^ 32)
    (hk : k * 8 ≤ length) (hfactor : 2 * (k + 1) ≤ limits.scanBudgetFactor.toNat) :
    2 * length + k * (2 * length + 1) ≤ limits.scanBudget length := by
  apply Nat.le_min.2
  constructor
  · have hexpand : 2 * (k + 1) * (length + 1) =
        2 * length + k * (2 * length + 1) + (k + 2) := by ring
    calc 2 * length + k * (2 * length + 1) ≤ 2 * (k + 1) * (length + 1) := by
          rw [hexpand]
          exact Nat.le_add_right ..
      _ ≤ limits.scanBudgetFactor.toNat * (length + 1) := Nat.mul_le_mul_right _ hfactor
  · exact Nat.le_of_lt (lt_maxWord hlength hk)

theorem scan_eq_ok_of_le {options : Options} (hscanner : options.scanner = .backtracking)
    {text : Bytes} (hlength : text.length ≤ 2 ^ 32)
    (hfactor : 2 * (unclosedOpenings text + 1) ≤ options.limits.scanBudgetFactor.toNat) :
    scan options text = .ok (scanLines text) := by
  rw [scan, hscanner]
  exact scanBacktracking_eq_ok_of_le ((scanSteps_le text).trans
    (Limits.le_scanBudget hlength (unclosedOpenings_mul_le text) hfactor))

/-- The cost of a scan with backtracking is bounded: linearly in the length of the text, and
once more for each opening fence that is not closed. So a budget suffices if its factor is
twice the number of these fences and two more. That is two where all fences are closed, and
the usual factor suffices for up to three that are not. -/
theorem scanBacktracking_bounded (text : Bytes) :
    (∀ limit, 2 * text.length + unclosedOpenings text * (2 * text.length + 1) ≤ limit →
      scanBacktracking text limit = .ok (scanLines text)) ∧
    (text.length ≤ 2 ^ 32 →
      (∀ options : Options, options.scanner = .backtracking →
        2 * (unclosedOpenings text + 1) ≤ options.limits.scanBudgetFactor.toNat →
        scan options text = .ok (scanLines text)) ∧
      (unclosedOpenings text = 0 →
        scan { scanner := .backtracking, limits := { scanBudgetFactor := 2 } } text =
          .ok (scanLines text)) ∧
      (unclosedOpenings text ≤ 3 →
        scan { scanner := .backtracking } text = .ok (scanLines text))) := by
  refine ⟨fun limit hlimit => scanBacktracking_eq_ok_of_le ((scanSteps_le text).trans hlimit),
    fun hlength => ⟨?_, ?_, ?_⟩⟩
  · intro options hscanner hfactor
    exact scan_eq_ok_of_le hscanner hlength hfactor
  · intro hclosed
    refine scan_eq_ok_of_le rfl hlength ?_
    rw [hclosed]
    decide
  · intro hfew
    refine scan_eq_ok_of_le rfl hlength ?_
    exact Nat.mul_le_mul_left 2 (Nat.succ_le_succ hfew)

/-- A block with an opening fence in its body, and behind it two opening fences that are not
closed. The text does not end in a newline. -/
def twoUnclosed : Bytes :=
  ticks ++ tag ++ [newline] ++ ticks ++ tag ++ [newline, 0x61, newline] ++ ticks ++ [newline] ++
    ticks ++ tag ++ [newline] ++ ticks ++ tag ++ [newline, 0x61]

theorem scanLines_twoUnclosed :
    scanLines twoUnclosed = [⟨⟨0, 22⟩, ⟨8, 18⟩, 0, 3, 0⟩] := by decide

theorem scanBacktracking_bounded_twoUnclosed :
    unclosedOpenings twoUnclosed = 2 ∧
      scanBacktracking twoUnclosed 236 = .ok [⟨⟨0, 22⟩, ⟨8, 18⟩, 0, 3, 0⟩] ∧
      scan { scanner := .backtracking, limits := { scanBudgetFactor := 6 } } twoUnclosed =
        .ok [⟨⟨0, 22⟩, ⟨8, 18⟩, 0, 3, 0⟩] ∧
      scan { scanner := .backtracking } twoUnclosed = .ok [⟨⟨0, 22⟩, ⟨8, 18⟩, 0, 3, 0⟩] := by
  have hcount : unclosedOpenings twoUnclosed = 2 := by decide
  obtain ⟨hlimit, hbudget⟩ := scanBacktracking_bounded twoUnclosed
  obtain ⟨hfactor, _, hfew⟩ := hbudget (by decide)
  rw [scanLines_twoUnclosed] at hlimit hfactor hfew
  rw [hcount] at hlimit hfactor hfew
  exact ⟨hcount, hlimit _ (by decide), hfactor _ rfl (by decide), hfew (by decide)⟩

/-- The limit of steps is sharp. There is one number of steps for a text, `scanSteps`, which
the text itself determines: a limit below it stops the scan at the first step that it does not
grant, and every other limit gives the same blocks. The number fits in a word, so the counter
gets there without an overflow. -/
theorem scanBacktracking_threshold {text : Bytes} (hlength : text.length ≤ 2 ^ 32) :
    scanSteps text < maxWord ∧ ∀ limit,
      (scanSteps text ≤ limit → scanBacktracking text limit = .ok (scanLines text)) ∧
      (limit < scanSteps text → scanBacktracking text limit = .error ⟨limit + 1, limit⟩) := by
  refine ⟨?_, fun limit => ⟨scanBacktracking_eq_ok_of_le, scanBacktracking_eq_error_of_lt⟩⟩
  calc scanSteps text
      ≤ 2 * text.length + unclosedOpenings text * (2 * text.length + 1) := scanSteps_le text
    _ < maxWord := lt_maxWord hlength (unclosedOpenings_mul_le text)

theorem scanBacktracking_threshold_twoUnclosed :
    scanSteps twoUnclosed = 73 ∧ 73 < maxWord ∧
      scanBacktracking twoUnclosed 73 = .ok [⟨⟨0, 22⟩, ⟨8, 18⟩, 0, 3, 0⟩] ∧
      scanBacktracking twoUnclosed 72 = .error ⟨73, 72⟩ := by
  have hsteps : scanSteps twoUnclosed = 73 := by decide
  obtain ⟨hword, hlimit⟩ := scanBacktracking_threshold (by decide : twoUnclosed.length ≤ 2 ^ 32)
  rw [hsteps, scanLines_twoUnclosed] at hlimit
  rw [hsteps] at hword
  exact ⟨hsteps, hword, (hlimit 73).1 (Nat.le_refl _), (hlimit 72).2 (by decide)⟩

end FencedDiff
