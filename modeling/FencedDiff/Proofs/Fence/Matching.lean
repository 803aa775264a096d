import FencedDiff.Proofs.Fence.Charge
import FencedDiff.Proofs.Fence.Steps

/-!
# Attempts at fences

An attempt at a fence reads bytes, while the signature of a line is computed on
the line as a whole. Before a line of a document, an attempt succeeds exactly on
the lines with the signature that it looks for, reads the whole line then, and
takes the steps that the line says where it fails (`openingSteps`,
`closingSteps`). An opening fence must also have a newline.

The lemmas are stated for the run of bytes up to the next newline, or up to the
end of the text; `Stops` says that what follows the run is one of the two. An
attempt goes in stages (spaces, backticks, tag, rest of the line), and each stage
has its own lemma for the places where it can fail.
-/

namespace FencedDiff

open Bytes

/-- The line ends here: a newline or the end of the text follows. -/
def Stops (rest : Bytes) : Prop := rest = [] ∨ ∃ t, rest = newline :: t

theorem takeWhile_append_of_stops {test : UInt8 → Bool} (htest : test newline = false)
    (s : Bytes) {rest : Bytes} (h : Stops rest) :
    (s ++ rest).takeWhile test = s.takeWhile test := by
  induction s with
  | nil => rcases h with rfl | ⟨t, rfl⟩ <;> simp [htest]
  | cons b s ih => rw [List.cons_append, List.takeWhile_cons, List.takeWhile_cons, ih]

theorem dropWhile_append_of_stops {test : UInt8 → Bool} (htest : test newline = false)
    (s : Bytes) {rest : Bytes} (h : Stops rest) :
    (s ++ rest).dropWhile test = s.dropWhile test ++ rest := by
  induction s with
  | nil => rcases h with rfl | ⟨t, rfl⟩ <;> simp [htest]
  | cons b s ih =>
      rw [List.cons_append, List.dropWhile_cons, List.dropWhile_cons, ih]
      split <;> rfl

theorem isPrefixOf_append_of_stops {pattern : Bytes} (hpattern : newline ∉ pattern)
    (s : Bytes) {rest : Bytes} (h : Stops rest) :
    pattern.isPrefixOf (s ++ rest) = pattern.isPrefixOf s := by
  induction pattern generalizing s with
  | nil => simp
  | cons b pattern ih =>
      rw [List.mem_cons, not_or] at hpattern
      cases s with
      | nil =>
          rcases h with rfl | ⟨t, rfl⟩
          · rfl
          · simp [List.isPrefixOf, Ne.symm hpattern.1]
      | cons c s => simp [List.isPrefixOf, ih hpattern.2]

section Stops

variable {run stop : Bytes}

theorem leadingSpaces_append_of_stops (run : Bytes) (h : Stops stop) :
    leadingSpaces (run ++ stop) = leadingSpaces run := by
  rw [leadingSpaces, leadingSpaces, takeWhile_append_of_stops (by decide) run h]

theorem drop_leadingSpaces_append_of_stops (run : Bytes) (h : Stops stop) :
    (run ++ stop).drop (leadingSpaces (run ++ stop)) = run.drop (leadingSpaces run) ++ stop := by
  rw [leadingSpaces_append_of_stops run h,
    List.drop_append_of_le_length (leadingSpaces_le_length run)]

/-- A newline behind a line is not looked at unless the line is an opening fence. -/
theorem openingSteps_append_of_stops (hstops : Stops stop)
    (h : stop = [] ∨ ∀ n, ¬ IsOpening n run) : openingSteps (run ++ stop) = openingSteps run := by
  rcases h with rfl | h
  · rw [List.append_nil]
  · have hfence : ¬ (ticks ++ tag).isPrefixOf (run.drop (leadingSpaces run)) = true := by
      intro hprefix
      obtain ⟨rest, hrest⟩ := List.isPrefixOf_iff_prefix.1 hprefix
      refine h (leadingSpaces run) ⟨rest, ?_⟩
      rw [List.append_assoc (spaces _), List.append_assoc, hrest, spaces_append_drop]
    rw [openingSteps, openingSteps, drop_leadingSpaces_append_of_stops run hstops,
      isPrefixOf_append_of_stops (by decide) _ hstops,
      isPrefixOf_append_of_stops (by decide) _ hstops, if_neg hfence, if_neg hfence,
      leadingSpaces_append_of_stops run hstops]

theorem blanksAndReturns_append_of_stops (s : Bytes) (h : Stops stop) :
    blanksAndReturns (s ++ stop) = blanksAndReturns s := by
  rw [blanksAndReturns, blanksAndReturns, takeWhile_append_of_stops (by decide) s h,
    dropWhile_append_of_stops (by decide) s h, takeWhile_append_of_stops (by decide) _ h]

theorem closingSteps_append_of_stops (hstops : Stops stop)
    (h : signature run ≠ some .closing) (h' : signature (run ++ stop) ≠ some .closing) :
    closingSteps (run ++ stop) = closingSteps run := by
  rw [closingSteps_of_not_closing h, closingSteps_of_not_closing h',
    drop_leadingSpaces_append_of_stops run hstops,
    isPrefixOf_append_of_stops (by decide) _ hstops, leadingSpaces_append_of_stops run hstops]
  by_cases hticks : ticks.isPrefixOf (run.drop (leadingSpaces run)) = true
  · have hle := (List.isPrefixOf_iff_prefix.1 hticks).length_le
    rw [if_pos hticks, if_pos hticks, List.drop_append_of_le_length hle,
      blanksAndReturns_append_of_stops _ hstops]
  · rw [if_neg hticks, if_neg hticks]

end Stops

namespace Cursor

variable {c : Cursor} {s rest : Bytes}

/-- A test that fails on newlines is run within the line. -/
theorem run_of_stops (hrest : c.rest = s ++ rest) (hstops : Stops rest) {test : UInt8 → Bool}
    (htest : test newline = false) : c.run test = (s.takeWhile test).length := by
  rw [run, hrest, takeWhile_append_of_stops htest s hstops]

theorem run_of_forall (hrest : c.rest = s ++ rest) {test : UInt8 → Bool}
    (hs : ∀ b ∈ s, test b = true) (hnext : rest.takeWhile test = []) :
    c.run test = s.length := by
  rw [run, hrest, List.takeWhile_append_of_pos hs, hnext, List.append_nil]

theorem run_line (hrest : c.rest = s ++ rest) (hs : newline ∉ s) (hstops : Stops rest) :
    c.run (· != newline) = s.length := by
  apply run_of_forall hrest
  · intro b hb
    simpa using fun e : b = newline => hs (e ▸ hb)
  · rcases hstops with rfl | ⟨t, rfl⟩
    · rfl
    · simp

theorem startsWith_of_stops (hrest : c.rest = s ++ rest) (hstops : Stops rest)
    {pattern : Bytes} (hpattern : newline ∉ pattern) :
    c.startsWith pattern = pattern.isPrefixOf s := by
  rw [startsWith, hrest, isPrefixOf_append_of_stops hpattern s hstops]

theorem startsWith_of_rest {pattern : Bytes} (hrest : c.rest = pattern ++ rest) :
    c.startsWith pattern = true :=
  startsWith_iff.2 ⟨rest, hrest.symm⟩

end Cursor

namespace Backtracking

theorem Progress.rest_after {p : Progress} {a r : Bytes} {n : Nat}
    (h : p.cursor.rest = a ++ r) (hn : a.length = n) : (p.after n).cursor.rest = r := by
  rw [after, ← hn, Cursor.rest_skip_append h]

section Stages

variable {p : Progress} {s rest : Bytes}

/-- Where the pattern stands it is read, and the attempt goes on behind it. -/
theorem takes_pattern {α : Type} {pattern : Bytes} {n : Nat} {a fail : α}
    {next : Nat → Progress → Except LimitExceeded α} (hrest : p.cursor.rest = pattern ++ rest)
    (h : Takes (fun limit => next limit (p.after pattern.length)) (p.steps + pattern.length) n a) :
    Takes (fun limit => if p.cursor.startsWith pattern then
      p.advance limit pattern.length >>= next limit else pure fail)
      p.steps (pattern.length + n) a := by
  simp only [Cursor.startsWith_of_rest hrest, if_true]
  exact (takes_advance p pattern.length).bind h

theorem takes_of_not_startsWith {α : Type} {pattern : Bytes} {fail : α}
    {next : Nat → Progress → Except LimitExceeded α}
    (h : ¬ p.cursor.startsWith pattern = true) :
    Takes (fun limit => if p.cursor.startsWith pattern then
      p.advance limit pattern.length >>= next limit else pure fail) p.steps 0 fail := by
  simp only [h]
  exact Takes.pure _ _

/-! ### The stages of an opening fence -/

theorem takes_tryOpenLine (hrest : p.cursor.rest = s ++ newline :: rest) (hs : newline ∉ s)
    (indent : Nat) :
    Takes (fun limit => tryOpenLine limit indent p) p.steps (s.length + 1)
      (p.after (s.length + 1), some indent) := by
  have hrun : p.cursor.run (· != newline) = s.length :=
    Cursor.run_line hrest hs (.inr ⟨rest, rfl⟩)
  have hend : (p.after s.length).cursor.atEnd = false :=
    Cursor.atEnd_of_rest (Progress.rest_after hrest rfl)
  unfold tryOpenLine
  simp only [hrun]
  refine (takes_advance p s.length).bind ?_
  simp only [hend]
  refine (takes_advance (p.after s.length) 1).bind (n := 0) ?_
  rw [Progress.after_after]
  exact Takes.pure _ _

theorem takes_tryOpenLine_none (hrest : p.cursor.rest = s) (hs : newline ∉ s) (indent : Nat) :
    Takes (fun limit => tryOpenLine limit indent p) p.steps s.length
      (p.after s.length, none) := by
  have hrest' : p.cursor.rest = s ++ [] := by rw [hrest, List.append_nil]
  have hrun : p.cursor.run (· != newline) = s.length := Cursor.run_line hrest' hs (.inl rfl)
  have hend : (p.after s.length).cursor.atEnd = true :=
    Cursor.atEnd_of_rest (Progress.rest_after hrest' rfl)
  unfold tryOpenLine
  simp only [hrun]
  refine (takes_advance p s.length).bind (n := 0) ?_
  simp only [hend, if_true]
  exact Takes.pure _ _

/-- Behind the backticks a run is read to its end if it has the tag, and not at all if not. -/
theorem takes_tryOpenTag_none (hrest : p.cursor.rest = s ++ rest) (hs : newline ∉ s)
    (hstops : Stops rest) (h : rest = [] ∨ ¬ tag.isPrefixOf s = true) (indent : Nat) {n : Nat}
    (hn : (if tag.isPrefixOf s then s.length else 0) = n) :
    Takes (fun limit => tryOpenTag limit indent p) p.steps n (p.after n, none) := by
  by_cases htag : tag.isPrefixOf s = true
  · obtain rfl := h.resolve_right (not_not.2 htag)
    obtain ⟨s', rfl⟩ := List.isPrefixOf_iff_prefix.1 htag
    rw [List.append_nil] at hrest
    rw [if_pos htag, List.length_append] at hn
    have hline := takes_tryOpenLine_none (Progress.rest_after hrest rfl)
      (fun hm => hs (List.mem_append_right _ hm)) indent
    rw [Progress.after_after] at hline
    rw [← hn]
    exact takes_pattern hrest hline
  · rw [if_neg htag] at hn
    rw [← hn]
    apply takes_of_not_startsWith
    rwa [Cursor.startsWith_of_stops hrest hstops (by decide)]

/-- Behind the spaces a run is read to its end if it has the backticks and the tag, and up to
the tag if it has the backticks only. -/
theorem takes_tryOpenTicks_none (hrest : p.cursor.rest = s ++ rest) (hs : newline ∉ s)
    (hstops : Stops rest) (h : rest = [] ∨ ¬ (ticks ++ tag).isPrefixOf s = true) (indent : Nat)
    {n : Nat} (hn : (if (ticks ++ tag).isPrefixOf s then s.length
      else if ticks.isPrefixOf s then ticks.length else 0) = n) :
    Takes (fun limit => tryOpenTicks limit indent p) p.steps n (p.after n, none) := by
  by_cases hticks : ticks.isPrefixOf s = true
  · obtain ⟨s', rfl⟩ := List.isPrefixOf_iff_prefix.1 hticks
    have hboth : (ticks ++ tag).isPrefixOf (ticks ++ s') = tag.isPrefixOf s' := by
      rw [Bool.eq_iff_iff, List.isPrefixOf_iff_prefix, List.isPrefixOf_iff_prefix,
        List.prefix_append_right_inj]
    rw [hboth] at h hn
    rw [if_pos hticks] at hn
    rw [List.append_assoc] at hrest
    have htag := takes_tryOpenTag_none (Progress.rest_after hrest rfl)
      (fun hm => hs (List.mem_append_right _ hm)) hstops h indent rfl
    have hsum : ticks.length + (if tag.isPrefixOf s' then s'.length else 0) = n := by
      rw [← hn]
      split
      · rw [List.length_append]
      · rfl
    rw [Progress.after_after] at htag
    rw [← hsum]
    exact takes_pattern hrest htag
  · have hboth : ¬ (ticks ++ tag).isPrefixOf s = true := by
      rw [List.isPrefixOf_iff_prefix] at hticks ⊢
      exact fun hprefix => hticks ((List.prefix_append ..).trans hprefix)
    rw [if_neg hboth, if_neg hticks] at hn
    rw [← hn]
    apply takes_of_not_startsWith
    rwa [Cursor.startsWith_of_stops hrest hstops (by decide)]

theorem takes_tryOpen_of_opening {n : Nat}
    (hrest : p.cursor.rest = spaces n ++ (ticks ++ (tag ++ (s ++ newline :: rest))))
    (hs : newline ∉ s) :
    Takes (fun limit => tryOpen limit p) p.steps
      (n + (ticks.length + (tag.length + (s.length + 1))))
      (p.after (n + (ticks.length + (tag.length + (s.length + 1)))), some n) := by
  have hindent : p.cursor.run (· == space) = n := by
    rw [Cursor.run, hrest]
    exact leadingSpaces_spaces_ticks n _
  have hticks := Progress.rest_after hrest (length_spaces n)
  have htag := Progress.rest_after hticks rfl
  have hline := takes_tryOpenLine (Progress.rest_after htag rfl) hs n
  simp only [Progress.after_after, Nat.add_assoc] at hline
  unfold tryOpen
  simp only [hindent]
  refine (takes_advance p n).bind (takes_pattern hticks (takes_pattern htag ?_))
  simpa only [Progress.after_after, Progress.steps_after, Nat.add_assoc] using hline

/-- A run that is no opening fence, or has no newline behind it, is read as far as it
looks like one. -/
theorem takes_tryOpen_of_not_opening {run : Bytes} (hrest : p.cursor.rest = run ++ rest)
    (hrun : newline ∉ run) (hstops : Stops rest) (h : rest = [] ∨ ∀ n, ¬ IsOpening n run) :
    Takes (fun limit => tryOpen limit p) p.steps (openingSteps run)
      (p.after (openingSteps run), none) := by
  obtain ⟨n, s, rfl, hn⟩ : ∃ n s, run = spaces n ++ s ∧ leadingSpaces run = n :=
    ⟨_, _, (spaces_append_drop run).symm, rfl⟩
  have hindent : p.cursor.run (· == space) = n := by
    rw [Cursor.run_of_stops hrest hstops (by decide)]
    exact hn
  have hfence : rest = [] ∨ ¬ (ticks ++ tag).isPrefixOf s = true := by
    refine h.imp_right fun h hprefix => ?_
    obtain ⟨s', rfl⟩ := List.isPrefixOf_iff_prefix.1 hprefix
    exact h n ⟨s', by simp⟩
  rw [List.append_assoc] at hrest
  have hticks := takes_tryOpenTicks_none (Progress.rest_after hrest (length_spaces n))
    (fun hm => hrun (List.mem_append_right _ hm)) hstops hfence n rfl
  have hsteps : openingSteps (spaces n ++ s) =
      n + if (ticks ++ tag).isPrefixOf s then s.length
        else if ticks.isPrefixOf s then ticks.length else 0 := by
    rw [openingSteps, hn, drop_spaces_append, List.length_append, length_spaces]
    split <;> rfl
  rw [Progress.after_after] at hticks
  rw [hsteps]
  unfold tryOpen
  simp only [hindent]
  exact (takes_advance p n).bind hticks

/-! ### The stages of a closing fence -/

theorem takes_tryLineEnd (hrest : p.cursor.rest = rest) (hstops : Stops rest) :
    Takes (fun limit => tryLineEnd limit p) p.steps (rest.take 1).length
      (p.after (rest.take 1).length, true) := by
  have hend : p.cursor.atEnd = rest.isEmpty := Cursor.atEnd_of_rest hrest
  rcases hstops with rfl | ⟨t, rfl⟩
  · simp only [tryLineEnd, hend]
    exact Takes.pure _ _
  · have hnewline : p.cursor.startsWith [newline] = true := Cursor.startsWith_of_rest hrest
    simp only [tryLineEnd, hend, hnewline, if_true]
    exact (takes_advance p 1).bind (n := 0) (Takes.pure _ _)

theorem takes_tryLineEnd_false {b : UInt8} (hrest : p.cursor.rest = b :: rest)
    (hb : b ≠ newline) : Takes (fun limit => tryLineEnd limit p) p.steps 0 (p, false) := by
  have hend : p.cursor.atEnd = false := Cursor.atEnd_of_rest hrest
  have hnewline : p.cursor.startsWith [newline] = false := by
    rw [Cursor.startsWith, hrest]
    simp [List.isPrefixOf, hb.symm]
  simp only [tryLineEnd, hend, hnewline]
  exact Takes.pure _ _

/-- Behind the backticks the blanks and carriage returns are read, and then the end of the
line is looked for. -/
theorem takes_tryCloseLine (hrest : p.cursor.rest = s ++ rest) (hstops : Stops rest) {n : Nat}
    {a : Progress × Bool}
    (h : Takes (fun limit => tryLineEnd limit (p.after (blanksAndReturns s)))
      (p.steps + blanksAndReturns s) n a) :
    Takes (fun limit => tryCloseLine limit p) p.steps (blanksAndReturns s + n) a := by
  have hblank : p.cursor.run isBlankByte = (s.takeWhile isBlankByte).length :=
    Cursor.run_of_stops hrest hstops (by decide)
  rw [← List.takeWhile_append_dropWhile (p := isBlankByte) (l := s), List.append_assoc] at hrest
  have hreturn : (p.after (s.takeWhile isBlankByte).length).cursor.run (· == carriageReturn) =
      ((s.dropWhile isBlankByte).takeWhile (· == carriageReturn)).length :=
    Cursor.run_of_stops (Progress.rest_after hrest rfl) hstops (by decide)
  unfold tryCloseLine
  simp only [hblank]
  rw [blanksAndReturns, Nat.add_assoc]
  refine (takes_advance p _).bind ?_
  simp only [hreturn]
  refine (takes_advance _ _).bind ?_
  simpa only [Progress.after_after, Progress.steps_after, Nat.add_assoc, blanksAndReturns] using h

theorem blanksAndReturns_append {blanks returns : Bytes}
    (hblanks : ∀ b ∈ blanks, isBlankByte b = true)
    (hreturns : ∀ b ∈ returns, b = carriageReturn) :
    blanksAndReturns (blanks ++ returns) = (blanks ++ returns).length := by
  have hreturn : ∀ b ∈ returns, (b == carriageReturn) = true := fun b hb =>
    beq_iff_eq.2 (hreturns b hb)
  have hblank : returns.takeWhile isBlankByte = [] ∧ returns.dropWhile isBlankByte = returns := by
    cases returns with
    | nil => exact ⟨rfl, rfl⟩
    | cons b returns =>
        rw [hreturns b (by simp)]
        exact ⟨rfl, rfl⟩
  rw [blanksAndReturns, List.takeWhile_append_of_pos hblanks, List.dropWhile_append_of_pos hblanks,
    hblank.1, hblank.2, List.append_nil, List.takeWhile_eq_self_iff.2 hreturn, List.length_append]

theorem exists_blanks_returns (s : Bytes) :
    ∃ blanks returns left, s = blanks ++ returns ++ left ∧
      (∀ b ∈ blanks, isBlankByte b = true) ∧ (∀ b ∈ returns, b = carriageReturn) ∧
      (blanks ++ returns).length = blanksAndReturns s := by
  refine ⟨s.takeWhile isBlankByte, (s.dropWhile isBlankByte).takeWhile (· == carriageReturn),
    (s.dropWhile isBlankByte).dropWhile (· == carriageReturn), ?_, ?_, ?_, ?_⟩
  · rw [List.append_assoc, List.takeWhile_append_dropWhile, List.takeWhile_append_dropWhile]
  · exact fun _ => List.mem_takeWhile_imp
  · exact fun _ hb => beq_iff_eq.1 (List.mem_takeWhile_imp (p := (· == carriageReturn)) hb)
  · rw [blanksAndReturns, List.length_append]

theorem takes_tryClose_of_closing {n : Nat}
    (hrest : p.cursor.rest = spaces n ++ (ticks ++ (s ++ rest))) (hstops : Stops rest)
    (hs : blanksAndReturns s = s.length) :
    Takes (fun limit => tryClose limit p) p.steps
      (n + (ticks.length + (s.length + (rest.take 1).length)))
      (p.after (n + (ticks.length + (s.length + (rest.take 1).length))), true) := by
  have hindent : p.cursor.run (· == space) = n := by
    rw [Cursor.run, hrest]
    exact leadingSpaces_spaces_ticks n _
  have hticks := Progress.rest_after hrest (length_spaces n)
  have hblank := Progress.rest_after hticks rfl
  have hend := takes_tryLineEnd (Progress.rest_after hblank rfl) hstops
  simp only [Progress.after_after, Progress.steps_after, Nat.add_assoc] at hend
  have hline : Takes (fun limit => tryCloseTicks limit (p.after n)) (p.after n).steps
      (ticks.length + (s.length + (rest.take 1).length))
      (p.after (n + (ticks.length + (s.length + (rest.take 1).length))), true) := by
    refine takes_pattern hticks ?_
    rw [← hs]
    refine takes_tryCloseLine hblank hstops ?_
    simpa only [hs, Progress.after_after, Progress.steps_after, Nat.add_assoc] using hend
  unfold tryClose
  simp only [hindent]
  exact (takes_advance p n).bind (hline.bind (n := 0) (Takes.pure _ _))

/-- Behind the spaces of a run that is no closing fence, the backticks are read, if there are
any, and the blanks and carriage returns behind them. -/
theorem takes_tryCloseTicks_false {n m : Nat} (hrest : p.cursor.rest = s ++ rest)
    (hs : newline ∉ s) (hstops : Stops rest) (h : signature (spaces n ++ s) ≠ some .closing)
    (hm : (if ticks.isPrefixOf s then ticks.length + blanksAndReturns (s.drop ticks.length)
      else 0) = m) :
    Takes (fun limit => tryCloseTicks limit p) p.steps m (p.after m, false) := by
  by_cases hticks : ticks.isPrefixOf s = true
  · obtain ⟨s', rfl⟩ := List.isPrefixOf_iff_prefix.1 hticks
    rw [if_pos hticks, List.drop_left] at hm
    rw [List.append_assoc] at hrest
    obtain ⟨blanks, returns, left, rfl, hblanks, hreturns, hlength⟩ := exists_blanks_returns s'
    -- what is left behind the blanks and carriage returns is not the end of the line
    obtain ⟨b, left, rfl⟩ : ∃ b left', left = b :: left' := by
      refine List.exists_cons_of_ne_nil fun hnil => h ?_
      have hends : ∀ b ∈ returns, isLineEnd b = true := by
        intro b hb
        rw [hreturns b hb]
        rfl
      rw [hnil]
      simpa using signature_of_blanks n hblanks hends
    have hne : b ≠ newline := by
      rintro rfl
      simp at hs
    have hline := Progress.rest_after hrest rfl
    have hend := Progress.rest_after (by rw [hline, List.append_assoc]) hlength
    have hclose := takes_tryCloseLine hline hstops (takes_tryLineEnd_false hend hne)
    rw [Progress.after_after, Nat.add_zero] at hclose
    rw [← hm]
    exact takes_pattern hrest hclose
  · rw [if_neg hticks] at hm
    rw [← hm]
    apply takes_of_not_startsWith
    rwa [Cursor.startsWith_of_stops hrest hstops (by decide)]

/-- A run that is no closing fence is read as far as it looks like one, and the cursor
goes back to its beginning. -/
theorem takes_tryClose_of_not_closing {run : Bytes} (hrest : p.cursor.rest = run ++ rest)
    (hrun : newline ∉ run) (hstops : Stops rest) (h : signature run ≠ some .closing) :
    Takes (fun limit => tryClose limit p) p.steps (closingSteps run)
      (p.spend (closingSteps run), false) := by
  obtain ⟨n, s, rfl, hn⟩ : ∃ n s, run = spaces n ++ s ∧ leadingSpaces run = n :=
    ⟨_, _, (spaces_append_drop run).symm, rfl⟩
  have hindent : p.cursor.run (· == space) = n := by
    rw [Cursor.run_of_stops hrest hstops (by decide)]
    exact hn
  rw [List.append_assoc] at hrest
  have hticks := takes_tryCloseTicks_false (Progress.rest_after hrest (length_spaces n))
    (fun hm => hrun (List.mem_append_right _ hm)) hstops h rfl
  rw [closingSteps_of_not_closing h, hn, drop_spaces_append]
  unfold tryClose
  simp only [hindent]
  refine (takes_advance p n).bind (hticks.bind (n := 0) ?_)
  rw [Progress.after_after]
  exact Takes.pure _ _

end Stages

section Line

variable {p : Progress} {line : Bytes} {lines : List Bytes}

theorem exists_run_of_rest (hcut : IsCut (line :: lines))
    (hrest : p.cursor.rest = (line :: lines).flatten) :
    ∃ run stop rest, newline ∉ run ∧ line = run ++ stop ∧ signature line = signature run ∧
      p.cursor.rest = run ++ rest ∧ Stops rest ∧ Stops stop ∧
      (rest.take 1).length = stop.length ∧ (rest = [] ∨ EndsInNewline line) := by
  obtain ⟨run, stop, hrun, rfl, hstop⟩ := hcut.exists_run
  refine ⟨run, stop, stop ++ lines.flatten, hrun, rfl, ?_, by simp [hrest], ?_⟩
  · apply signature_append_of_forall
    rcases hstop with rfl | ⟨rfl, _⟩ <;> simp [isLineEnd]
  · rcases hstop with rfl | ⟨rfl, rfl⟩
    · exact ⟨.inr ⟨lines.flatten, rfl⟩, .inr ⟨[], rfl⟩, by simp, .inr ⟨run, hrun, rfl⟩⟩
    · exact ⟨.inl rfl, .inl rfl, rfl, .inl rfl⟩

theorem takes_tryOpen_line {n : Nat} (hrest : p.cursor.rest = (line :: lines).flatten)
    (hend : EndsInNewline line) (h : signature line = some (.opening n)) :
    Takes (fun limit => tryOpen limit p) p.steps line.length
      (p.after line.length, some n) := by
  obtain ⟨body, hbody, rfl⟩ := hend
  rw [signature_append_of_forall (by simp [isLineEnd]), signature_eq_opening_iff] at h
  obtain ⟨s, rfl⟩ := h
  have hs : newline ∉ s := fun hm => hbody (List.mem_append_right _ hm)
  have hrest' : p.cursor.rest =
      spaces n ++ (ticks ++ (tag ++ (s ++ newline :: lines.flatten))) := by simp [hrest]
  have hopen := takes_tryOpen_of_opening hrest' hs
  simpa [Nat.add_assoc] using hopen

theorem takes_tryOpen_line_none (hcut : IsCut (line :: lines))
    (hrest : p.cursor.rest = (line :: lines).flatten)
    (h : ∀ n, signature line = some (.opening n) → ¬ EndsInNewline line) :
    Takes (fun limit => tryOpen limit p) p.steps (openingSteps line)
      (p.after (openingSteps line), none) := by
  obtain ⟨run, stop, rest, hrun, rfl, hsig, hrest', hstops, hstop, hlength, hend⟩ :=
    exists_run_of_rest hcut hrest
  have hopening : rest = [] ∨ ∀ n, ¬ IsOpening n run := hend.imp_right fun hend n hopen =>
    h n (hsig.trans (signature_eq_opening_iff.2 hopen)) hend
  have hsteps : openingSteps (run ++ stop) = openingSteps run := by
    refine openingSteps_append_of_stops hstop (hopening.imp_left fun hnil => ?_)
    rw [hnil] at hlength
    exact List.length_eq_zero_iff.1 hlength.symm
  rw [hsteps]
  exact takes_tryOpen_of_not_opening hrest' hrun hstops hopening

theorem takes_tryClose_line (hcut : IsCut (line :: lines))
    (hrest : p.cursor.rest = (line :: lines).flatten)
    (h : signature line = some .closing) :
    Takes (fun limit => tryClose limit p) p.steps line.length
      (p.after line.length, true) := by
  obtain ⟨run, stop, rest, hrun, rfl, hsig, hrest', hstops, _, hlength, _⟩ :=
    exists_run_of_rest hcut hrest
  rw [hsig, ← List.append_nil run, signature_eq_closing_iff hrun (.inr rfl),
    List.append_nil] at h
  obtain ⟨n, blanks, returns, stop', hblanks, hreturns, hstop', heq⟩ := h
  have hnil : stop' = [] := by
    refine hstop'.resolve_left fun hs => hrun ?_
    rw [heq, hs]
    simp
  have hblank : ∀ b ∈ blanks, isBlankByte b = true := by
    intro b hb
    simpa [isBlankByte] using hblanks b hb
  obtain rfl : run = spaces n ++ (ticks ++ (blanks ++ returns)) := by
    simpa [hnil] using heq
  have hclose := takes_tryClose_of_closing (p := p) (n := n) (by simpa using hrest') hstops
    (blanksAndReturns_append hblank hreturns)
  simpa [← hlength, Nat.add_assoc] using hclose

theorem takes_tryClose_line_false (hcut : IsCut (line :: lines))
    (hrest : p.cursor.rest = (line :: lines).flatten)
    (h : signature line ≠ some .closing) :
    Takes (fun limit => tryClose limit p) p.steps (closingSteps line)
      (p.spend (closingSteps line), false) := by
  obtain ⟨run, stop, rest, hrun, rfl, hsig, hrest', hstops, hstop, _, _⟩ :=
    exists_run_of_rest hcut hrest
  have hrun' : signature run ≠ some .closing := hsig ▸ h
  rw [closingSteps_append_of_stops hstop hrun' h]
  exact takes_tryClose_of_not_closing hrest' hrun hstops hrun'

/-- A line with its newline is skipped in as many steps as it has bytes. -/
theorem takes_skipLine (hrest : p.cursor.rest = (line :: lines).flatten)
    (hend : EndsInNewline line) :
    Takes (fun limit => skipLine limit p) p.steps line.length (p.after line.length) := by
  obtain ⟨body, hbody, rfl⟩ := hend
  have hrest' : p.cursor.rest = body ++ (newline :: lines.flatten) := by simp [hrest]
  have hrun : p.cursor.run (· != newline) = body.length :=
    Cursor.run_line hrest' hbody (.inr ⟨_, rfl⟩)
  unfold skipLine
  rw [hrun, List.length_append]
  exact takes_advance p _

/-- At a last line without newline, one step more finds out that it has none. -/
theorem takes_skipLine_last (hrest : p.cursor.rest = line) (hline : newline ∉ line) :
    Takes (fun limit => skipLine limit p) p.steps (line.length + 1)
      (p.after (line.length + 1)) := by
  have hrest' : p.cursor.rest = line ++ [] := by rw [hrest, List.append_nil]
  have hrun : p.cursor.run (· != newline) = line.length :=
    Cursor.run_line hrest' hline (.inl rfl)
  unfold skipLine
  rw [hrun]
  exact takes_advance p _

end Line

end Backtracking

end FencedDiff
