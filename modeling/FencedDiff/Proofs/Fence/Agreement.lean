import FencedDiff.Proofs.Fence.Matching
import FencedDiff.Proofs.Fence.Placement

/-!
# The two scanners agree

Along an outline the backtracking scanner finds the same blocks as the line
scanner, unless its steps run out (`takes_scanFrom`). The steps that it takes are
those that the lines of the document say (`scanSteps`), whatever the limit. So a
limit of as many steps or more buys the blocks, and below it the scan fails
(`scanBacktracking_eq_charge`).
-/

namespace FencedDiff

open Bytes

namespace Backtracking

theorem findClose_eq (limit : Nat) (p : Progress) :
    findClose limit p =
      if p.cursor.atEnd then pure (p, none)
      else tryClose limit p >>= fun r =>
        if r.2 then pure (r.1, some (p.cursor.pos, p.cursor.line))
        else skipLine limit r.1 >>= findClose limit := by
  rw [findClose]
  by_cases hend : p.cursor.atEnd = true
  · rw [dif_pos hend, if_pos hend]
    rfl
  · rw [dif_neg hend, if_neg hend]
    split
    · rename_i e hclose
      rw [hclose]
      rfl
    · rename_i q hclose
      rw [hclose]
      rfl
    · rename_i q hclose
      rw [hclose]
      change _ = skipLine limit q >>= findClose limit
      split
      · rename_i e hskip
        rw [hskip]
        rfl
      · rename_i r hskip
        rw [hskip]
        rfl

theorem scanFrom_eq (limit : Nat) (found : Array Block) (p : Progress) :
    scanFrom limit found p =
      if p.cursor.atEnd then pure found
      else if p.cursor.atLineStart then
        tryBlock limit p >>= fun r =>
          match r.2 with
          | some block => scanFrom limit (found.push block) r.1
          | none => r.1.advance limit 1 >>= scanFrom limit found
      else p.advance limit 1 >>= scanFrom limit found := by
  rw [scanFrom]
  by_cases hend : p.cursor.atEnd = true
  · rw [dif_pos hend, if_pos hend]
    rfl
  · rw [dif_neg hend, if_neg hend]
    by_cases hstart : p.cursor.atLineStart = true
    · rw [if_pos hstart, if_pos hstart]
      split
      · rename_i e hblock
        rw [hblock]
        rfl
      · rename_i q block hblock
        rw [hblock]
        rfl
      · rename_i q hblock
        rw [hblock]
        change _ = q.advance limit 1 >>= scanFrom limit found
        split
        · rename_i e hadvance
          rw [hadvance]
          rfl
        · rename_i r hadvance
          rw [hadvance]
          rfl
    · rw [if_neg hstart, if_neg hstart]
      split
      · rename_i e hadvance
        rw [hadvance]
        rfl
      · rename_i q hadvance
        rw [hadvance]
        rfl

/-- In a search a line that does not close is tried and skipped. -/
theorem takes_findClose_line {line : Bytes} {lines : List Bytes} (hcut : IsCut (line :: lines))
    (hline : EndsInNewline line) (h : signature line ≠ some .closing) {p : Progress}
    (hrest : p.cursor.rest = (line :: lines).flatten) {n : Nat}
    {a : Progress × Option (Nat × Nat)}
    (hfind : Takes (fun limit => findClose limit ((p.spend (closingSteps line)).after line.length))
      (p.steps + closingSteps line + line.length) n a) :
    Takes (fun limit => findClose limit p) p.steps
      (closingSteps line + (skipSteps line + n)) a := by
  have hclose := takes_tryClose_line_false hcut hrest h
  have hskip := takes_skipLine (p := p.spend (closingSteps line)) hrest hline
  have hend : p.cursor.atEnd = false := Cursor.atEnd_before_line hrest hline.ne_nil
  rw [skipSteps_of_endsInNewline hline]
  refine .of_eq (fun limit => findClose_eq limit p) ?_
  simp only [hend]
  exact hclose.bind (hskip.bind hfind)

/-- Where no line closes, all lines are tried and skipped. -/
theorem takes_findClose_none {lines : List Bytes} (hcut : IsCut lines)
    (hnone : ∀ l ∈ lines, signature l ≠ some .closing) {p : Progress}
    (hrest : p.cursor.rest = lines.flatten) :
    ∃ q : Progress, q.steps = p.steps + searchSteps lines ∧
      Takes (fun limit => findClose limit p) p.steps (searchSteps lines) (q, none) := by
  induction hcut generalizing p with
  | nil =>
      refine ⟨p, rfl, .of_eq (fun limit => findClose_eq limit p) ?_⟩
      have hend : p.cursor.atEnd = true := Cursor.atEnd_of_rest hrest
      simp only [hend, if_true]
      exact Takes.pure _ _
  | @last line hline hne =>
      have hend : p.cursor.atEnd = false := Cursor.atEnd_before_line hrest hne
      rw [List.forall_mem_singleton] at hnone
      rw [List.flatten_singleton] at hrest
      have hclose := takes_tryClose_line_false (p := p) (.last hline hne)
        (by simpa using hrest) hnone
      have hskip := takes_skipLine_last (p := p.spend (closingSteps line)) hrest hline
      have hend' : ((p.spend (closingSteps line)).after (line.length + 1)).cursor.atEnd =
          true := by
        rw [Cursor.atEnd, Progress.after, Progress.spend, Cursor.rest_skip, hrest]
        simp
      rw [searchSteps_cons_of_not_closing hnone, skipSteps_of_notMem hline, searchSteps]
      refine ⟨(p.spend (closingSteps line)).after (line.length + 1), ?_,
        .of_eq (fun limit => findClose_eq limit p) ?_⟩
      · rw [Progress.steps_after, Progress.steps_spend]
        omega
      simp only [hend]
      refine hclose.bind (hskip.bind ?_)
      refine .of_eq (fun limit => findClose_eq limit _) ?_
      simp only [hend', if_true]
      exact Takes.pure _ _
  | @cons line lines hline hcut ih =>
      rw [List.forall_mem_cons] at hnone
      obtain ⟨q, hq, hfind⟩ := ih hnone.2
        (p := (p.spend (closingSteps line)).after line.length) (Cursor.rest_skip_append hrest)
      rw [searchSteps_cons_of_not_closing hnone.1]
      refine ⟨q, ?_, takes_findClose_line (.cons hline hcut) hline hnone.1 hrest hfind⟩
      rw [hq, Progress.steps_after, Progress.steps_spend, skipSteps_of_endsInNewline hline]
      omega

theorem takes_findClose_some {body lines : List Bytes} {closing : Bytes}
    (hcut : IsCut (body ++ closing :: lines))
    (hbody : ∀ l ∈ body, signature l ≠ some .closing)
    (hclosing : signature closing = some .closing) {p : Progress} {number start : Nat}
    (hp : p.cursor.Before number start (body ++ closing :: lines)) :
    Takes (fun limit => findClose limit p) p.steps (searchSteps (body ++ closing :: lines))
      (⟨p.cursor.skip (body.flatten.length + closing.length),
          p.steps + searchSteps (body ++ closing :: lines)⟩,
        some (start + body.flatten.length, number + body.length)) := by
  induction body generalizing p number start with
  | nil =>
      have hclose := takes_tryClose_line hcut hp.rest hclosing
      have hend : p.cursor.atEnd = false :=
        Cursor.atEnd_before_line hp.rest (hcut.ne_nil closing (by simp))
      rw [List.nil_append, searchSteps_cons_of_closing hclosing]
      refine .of_eq (fun limit => findClose_eq limit p) ?_
      simp only [hend]
      refine hclose.bind (n := 0) ?_
      simp only [if_true, hp.pos, hp.line (by simp)]
      simpa [Progress.after] using Takes.pure _ _
  | cons line body ih =>
      rw [List.forall_mem_cons] at hbody
      have hline : EndsInNewline line := hcut.endsInNewline_before
      have hfind := ih hcut.tail hbody.2
        (p := (p.spend (closingSteps line)).after line.length) (hp.skip_line hcut)
      have hsteps : searchSteps (line :: body ++ closing :: lines) =
          closingSteps line + (skipSteps line + searchSteps (body ++ closing :: lines)) :=
        searchSteps_cons_of_not_closing hbody.1
      have hanswer : (⟨((p.spend (closingSteps line)).after line.length).cursor.skip
            (body.flatten.length + closing.length), p.steps + closingSteps line + line.length +
              searchSteps (body ++ closing :: lines)⟩ : Progress) =
          ⟨p.cursor.skip ((line :: body).flatten.length + closing.length),
            p.steps + searchSteps (line :: body ++ closing :: lines)⟩ := by
        rw [hsteps, skipSteps_of_endsInNewline hline]
        simp [Cursor.skip_skip, Nat.add_assoc]
      have hplace : start + line.length + body.flatten.length =
          start + (line :: body).flatten.length := by simp [Nat.add_assoc]
      have hnumber : number + 1 + body.length = number + (line :: body).length := by
        simp [Nat.add_assoc, Nat.add_comm 1]
      rw [← hanswer, ← hplace, ← hnumber, hsteps]
      exact takes_findClose_line hcut hline hbody.1 hp.rest hfind

section Attempt

variable {p : Progress} {line : Bytes} {lines : List Bytes}

/-- A line that is no opening fence, or has no newline, begins no block. -/
theorem takes_tryBlock_line (hcut : IsCut (line :: lines))
    (hrest : p.cursor.rest = (line :: lines).flatten)
    (h : ∀ n, signature line = some (.opening n) → ¬ EndsInNewline line) :
    Takes (fun limit => tryBlock limit p) p.steps (openingSteps line)
      (p.spend (openingSteps line), none) := by
  unfold tryBlock
  exact (takes_tryOpen_line_none hcut hrest h).bind (n := 0) (Takes.pure _ _)

/-- An opening fence that is never closed begins no block. That it is not closed
is known only at the end of the text. -/
theorem takes_tryBlock_unclosed (hcut : IsCut (line :: lines))
    (hrest : p.cursor.rest = (line :: lines).flatten) (hend : EndsInNewline line)
    {n : Nat} (hopening : signature line = some (.opening n))
    (hnone : ∀ l ∈ lines, signature l ≠ some .closing) :
    Takes (fun limit => tryBlock limit p) p.steps (openingSteps line + searchSteps lines)
      (p.spend (openingSteps line + searchSteps lines), none) := by
  have hopen := takes_tryOpen_line hrest hend hopening
  obtain ⟨q, hq, hfind⟩ := takes_findClose_none hcut.tail hnone
    (p := p.after line.length) (Cursor.rest_skip_append hrest)
  rw [openingSteps_of_opening hopening]
  have hanswer : p.spend (line.length + searchSteps lines) = q.returnTo p.cursor := by
    rw [Progress.returnTo, hq, Progress.steps_after, Progress.spend, Nat.add_assoc]
  rw [hanswer]
  unfold tryBlock
  exact hopen.bind (hfind.bind (n := 0) (Takes.pure _ _))

theorem takes_tryBlock_block {opening closing : Bytes} {body : List Bytes} {n : Nat}
    (hcut : IsCut (opening :: (body ++ closing :: lines)))
    (hopening : signature opening = some (.opening n))
    (hbody : ∀ l ∈ body, signature l ≠ some .closing)
    (hclosing : signature closing = some .closing) {number start : Nat}
    (hp : p.cursor.Before number start (opening :: (body ++ closing :: lines))) :
    Takes (fun limit => tryBlock limit p) p.steps
      (openingSteps opening + searchSteps (body ++ closing :: lines))
      (⟨p.cursor.skip (opening.length + body.flatten.length + closing.length),
          p.steps + (openingSteps opening + searchSteps (body ++ closing :: lines))⟩,
        some (blockAt number start n opening body closing)) := by
  have hopen := takes_tryOpen_line hp.rest hcut.endsInNewline_before hopening
  have hfind := takes_findClose_some hcut.tail hbody hclosing
    (p := p.after opening.length) (hp.skip_line hcut)
  have hskip : (p.cursor.skip opening.length).skip (body.flatten.length + closing.length) =
      p.cursor.skip (opening.length + body.flatten.length + closing.length) := by
    rw [Cursor.skip_skip, Nat.add_assoc]
  have hpos : (p.cursor.skip (opening.length + body.flatten.length + closing.length)).pos =
      start + opening.length + body.flatten.length + closing.length := by
    rw [Cursor.pos_skip _ (by simp [hp.rest]; omega), hp.pos]
    omega
  have hblock : blockAt number start n opening body closing =
      { span := ⟨p.cursor.pos, (p.cursor.skip
          (opening.length + body.flatten.length + closing.length)).pos⟩
        body := ⟨(p.cursor.skip opening.length).pos,
          start + opening.length + body.flatten.length⟩
        startLine := p.cursor.line
        endLine := number + 1 + body.length
        indent := n } := by
    rw [blockAt, hpos, (hp.skip_line hcut).pos, hp.pos, hp.line (by simp)]
  rw [hblock, ← hskip, openingSteps_of_opening hopening, ← Nat.add_assoc p.steps]
  unfold tryBlock
  exact hopen.bind (hfind.bind (n := 0) (Takes.pure _ _))

end Attempt

/-- Within a line no block is tried: the scan goes on behind the line. -/
theorem takes_scanFrom_within {p : Progress} {run stop rest : Bytes} {found : Array Block}
    {k : Nat} {a : Array Block} (hstart : p.cursor.atLineStart = false)
    (hrest : p.cursor.rest = run ++ (stop ++ rest)) (hrun : newline ∉ run)
    (hstop : stop = [newline] ∨ stop = [])
    (h : Takes (fun limit => scanFrom limit found (p.after (run.length + stop.length)))
      (p.steps + (run.length + stop.length)) k a) :
    Takes (fun limit => scanFrom limit found p) p.steps (run.length + stop.length + k) a := by
  induction run generalizing p with
  | nil =>
      rcases hstop with rfl | rfl
      · have hend : p.cursor.atEnd = false := Cursor.atEnd_of_rest hrest
        refine .of_eq (fun limit => scanFrom_eq limit found p) ?_
        simp only [hend, hstart]
        exact (takes_advance p 1).bind h
      · simpa [Progress.after] using h
  | cons b run ih =>
      rw [List.mem_cons, not_or] at hrun
      have hend : p.cursor.atEnd = false := Cursor.atEnd_of_rest hrest
      have hlength : (b :: run).length + stop.length = 1 + (run.length + stop.length) := by
        rw [List.length_cons]
        omega
      rw [hlength, ← Progress.after_after, ← Nat.add_assoc] at h
      rw [hlength, Nat.add_assoc]
      refine .of_eq (fun limit => scanFrom_eq limit found p) ?_
      simp only [hend, hstart]
      exact (takes_advance p 1).bind (ih (Cursor.atLineStart_skip_one hrest hrun.1)
        (Cursor.rest_skip_append (a := [b]) hrest) hrun.2 h)

theorem takes_advance_line {p : Progress} {line : Bytes} {lines : List Bytes}
    {found : Array Block} {k : Nat} {a : Array Block} (hcut : IsCut (line :: lines))
    (hrest : p.cursor.rest = (line :: lines).flatten)
    (h : Takes (fun limit => scanFrom limit found (p.after line.length))
      (p.steps + line.length) k a) :
    Takes (fun limit => p.advance limit 1 >>= scanFrom limit found) p.steps
      (line.length + k) a := by
  have hne := hcut.ne_nil line (by simp)
  obtain ⟨run, stop, hrun, rfl, hstop⟩ := hcut.exists_run
  have hstop' : stop = [newline] ∨ stop = [] := hstop.imp_right And.left
  cases run with
  | nil =>
      obtain rfl : stop = [newline] := hstop'.resolve_right fun hs => hne (by simp [hs])
      exact (takes_advance p 1).bind h
  | cons b run =>
      rw [List.mem_cons, not_or] at hrun
      have hrest' : p.cursor.rest = [b] ++ (run ++ (stop ++ lines.flatten)) := by
        simp [hrest]
      have hlength : (b :: run ++ stop).length = 1 + (run.length + stop.length) := by
        simp
        omega
      rw [hlength, ← Progress.after_after, ← Nat.add_assoc] at h
      rw [hlength, Nat.add_assoc]
      exact (takes_advance p 1).bind (takes_scanFrom_within
        (Cursor.atLineStart_skip_one hrest' hrun.1)
        (Cursor.rest_skip_append (a := [b]) hrest') hrun.2 hstop' h)

/-- The scan finds the blocks of an outline, in the steps that its lines say. -/
theorem takes_scanFrom {parts : List Part} (h : IsOutline parts)
    (hcut : IsCut (partLines parts)) {p : Progress} {number start : Nat}
    (hp : p.cursor.Before number start (partLines parts)) (found : Array Block) :
    Takes (fun limit => scanFrom limit found p) p.steps (stepsFrom false (partLines parts))
      (found.toList ++ placeParts number start parts).toArray := by
  induction h generalizing p number start found with
  | nil =>
      have hend : p.cursor.atEnd = true := Cursor.atEnd_of_rest hp.rest
      refine .of_eq (fun limit => scanFrom_eq limit found p) ?_
      simp only [hend, if_true]
      simpa [stepsFrom] using Takes.pure p.steps found
  | @line text parts hopen hparts ih =>
      rw [partLines_cons, Part.lines, List.singleton_append] at hcut hp ⊢
      have hend : p.cursor.atEnd = false :=
        Cursor.atEnd_before_line hp.rest (hcut.ne_nil text (by simp))
      have hstart := hp.atLineStart (by simp)
      -- an attempt at a block fails, more or less soon
      obtain ⟨m, hm, hblock⟩ : ∃ m, stepsFrom false (text :: partLines parts) =
            m + (text.length + stepsFrom false (partLines parts)) ∧
          Takes (fun limit => tryBlock limit p) p.steps m (p.spend m, none) := by
        by_cases hopening : isOpeningLine text = true
        · obtain ⟨⟨n, hn⟩, hlast⟩ := isOpeningLine_iff.1 hopening
          exact ⟨_, stepsFrom_unclosed hopening (hopen n hn), takes_tryBlock_unclosed hcut hp.rest
            (hcut.endsInNewline_of_getLast? hlast) hn (hopen n hn)⟩
        · exact ⟨_, stepsFrom_line hopening, takes_tryBlock_line hcut hp.rest
            fun n hn hlast => hopening (isOpeningLine_iff.2 ⟨⟨n, hn⟩, hlast.getLast?⟩)⟩
      have hrest := ih hcut.tail (p := (p.spend m).after text.length) (hp.skip_line hcut) found
      rw [hm]
      refine .of_eq (fun limit => scanFrom_eq limit found p) ?_
      simp only [hend, hstart, if_true]
      refine hblock.bind ?_
      simpa [placeParts_cons, Part.place?, Part.lines] using
        takes_advance_line hcut (p := p.spend m) hp.rest hrest
  | @block n opening body closing parts hopening hbody hclosing hparts ih =>
      rw [partLines_cons, Part.lines, List.cons_append, List.append_assoc,
        List.singleton_append] at hcut hp ⊢
      have hend : p.cursor.atEnd = false :=
        Cursor.atEnd_before_line hp.rest (hcut.ne_nil opening (by simp))
      have hstart := hp.atLineStart (by simp)
      have hblock := takes_tryBlock_block hcut hopening hbody hclosing hp
      rw [stepsFrom_block (isOpeningLine_iff.2 ⟨⟨n, hopening⟩, hcut.endsInNewline_before.getLast?⟩)
        hbody hclosing]
      generalize openingSteps opening + searchSteps (body ++ closing :: partLines parts) = m
        at hblock ⊢
      have hlines : opening :: (body ++ closing :: partLines parts) =
          (opening :: (body ++ [closing])) ++ partLines parts := by simp
      rw [hlines] at hcut hp
      have hnext := hp.skip_lines hcut
      have hrest := ih hcut.of_append
        (p := ⟨p.cursor.skip (opening.length + body.flatten.length + closing.length),
          p.steps + m⟩) (by simpa [Nat.add_assoc] using hnext)
        (found.push (blockAt number start n opening body closing))
      refine .of_eq (fun limit => scanFrom_eq limit found p) ?_
      simp only [hend, hstart, if_true]
      refine hblock.bind ?_
      simpa [placeParts_cons, Part.place?, Part.lines, Nat.add_assoc] using hrest

end Backtracking

/-- The steps of a scan with backtracking are charged to a document, whatever the
limit, and they buy the blocks that the line scanner finds. -/
theorem scanBacktracking_eq_charge (text : Bytes) (limit : Nat) :
    scanBacktracking text limit =
      Backtracking.charge limit 0 (scanSteps text) (scanLines text) := by
  obtain ⟨parts, hparts, hlines⟩ := exists_outline (splitLines text)
  have hbefore : (Cursor.ofText text).Before 0 0 (partLines parts) :=
    ⟨(flatten_partLines hlines).symm, rfl, fun _ => rfl, fun _ => rfl⟩
  have hscan : Backtracking.scanFrom limit #[] { cursor := .ofText text } = _ :=
    Backtracking.takes_scanFrom hparts (isCut_partLines hlines)
      (p := { cursor := .ofText text }) hbefore #[] limit (Nat.zero_le _)
  rw [scanBacktracking, hscan, hparts.scanLines_eq_placeParts hlines, scanSteps, ← hlines]
  unfold Backtracking.charge
  split
  · simp [Except.map]
  · rfl

/-- The scanners agree: within its limit, the backtracking scanner finds the blocks
that the line scanner finds, in the same order and at the same places. -/
theorem scanBacktracking_agrees (text : Bytes) (limit : Nat) :
    scanBacktracking text limit = .ok (scanLines text) ∨
      scanBacktracking text limit = .error ⟨limit + 1, limit⟩ := by
  rw [scanBacktracking_eq_charge, Backtracking.charge]
  split
  · exact .inl rfl
  · exact .inr rfl

end FencedDiff
