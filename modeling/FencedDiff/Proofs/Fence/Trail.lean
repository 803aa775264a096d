import FencedDiff.Fence.Trail
import FencedDiff.Proofs.Fence.Attempts

/-!
# Trails keep their place

A cursor carries its position and the number of its line along, and never looks back. Whatever
steps a trail takes, both are still those of the text behind the cursor, and the same holds of
every place that is kept (`Trail.IsIn`, which each step preserves).

Where a return goes is told from the steps alone. It goes back to before the save behind which
all steps are balanced (`Balanced`), and without such a save no place is kept to return to. The
main statement is `run_keeps_place`.
-/

namespace FencedDiff

open Bytes

namespace Cursor

/-- The cursor stands in the text, and all that it tells is so. -/
structure StandsIn (c : Cursor) (text : Bytes) : Prop where
  pos_le : c.pos ≤ text.length
  line : c.line = (text.take c.pos).count newline
  atLineStart : c.atLineStart = true ↔
    c.pos = 0 ∨ ∃ place, c.pos = place + 1 ∧ text[place]? = some newline
  atEnd : c.atEnd = true ↔ c.pos = text.length
  rest : c.rest = text.drop c.pos

/-- The cursor stands between two parts of the text. -/
def IsIn (c : Cursor) (text : Bytes) : Prop :=
  ∃ behind ahead, text = behind ++ ahead ∧ c.Between behind ahead

variable {c : Cursor} {text : Bytes}

theorem isIn_ofText (text : Bytes) : (ofText text).IsIn text :=
  ⟨[], text, rfl, between_ofText text⟩

/-- A cursor skips no more than there is. -/
theorem skip_length_take (c : Cursor) (n : Nat) : c.skip (c.rest.take n).length = c.skip n := by
  induction n generalizing c with
  | zero => rfl
  | succ n ih =>
      have hbump := ih c.bump
      rw [rest_bump] at hbump
      cases hrest : c.rest with
      | nil =>
          have hstays : c.bump = c := by rw [bump, hrest]
          rw [hrest, hstays, List.tail_nil, List.take_nil] at hbump
          rw [List.take_nil, hbump, skip, hstays]
      | cons b rest =>
          rw [hrest, List.tail_cons] at hbump
          rw [List.take_succ_cons, List.length_cons, skip, skip, hbump]

theorem IsIn.skip (h : c.IsIn text) (n : Nat) : (c.skip n).IsIn text := by
  obtain ⟨behind, ahead, rfl, hc⟩ := h
  have hahead : c.Between behind (ahead.take n ++ ahead.drop n) := by
    rwa [List.take_append_drop]
  refine ⟨behind ++ ahead.take n, ahead.drop n, by simp, ?_⟩
  rw [← skip_length_take, hc.rest]
  exact hahead.skip

theorem IsIn.pos_skip (h : c.IsIn text) (n : Nat) :
    (c.skip n).pos = min (c.pos + n) text.length := by
  obtain ⟨behind, ahead, rfl, hc⟩ := h
  rw [← skip_length_take, Cursor.pos_skip c (List.length_take_le' n _), hc.rest, hc.pos,
    List.length_take, List.length_append]
  omega

theorem IsIn.standsIn (h : c.IsIn text) : c.StandsIn text := by
  obtain ⟨behind, ahead, rfl, hc⟩ := h
  have htake : (behind ++ ahead).take c.pos = behind := by rw [hc.pos, List.take_left]
  have hdrop : (behind ++ ahead).drop c.pos = ahead := by rw [hc.pos, List.drop_left]
  refine ⟨?_, ?_, ?_, ?_, ?_⟩
  · rw [hc.pos, List.length_append]
    exact Nat.le_add_right _ _
  · rw [htake, hc.line]
  · rw [hc.atLineStart, hc.pos]
    rcases List.eq_nil_or_concat behind with rfl | ⟨init, last, rfl⟩
    · simp
    · simp
  · rw [atEnd, hc.rest, hc.pos, List.length_append]
    simp
  · rw [hdrop, hc.rest]

theorem StandsIn.peek? (h : c.StandsIn text) : c.peek? = text[c.pos]? := by
  rw [Cursor.peek?, h.rest, List.head?_drop]

theorem StandsIn.startsWith (h : c.StandsIn text) (pattern : Bytes) :
    c.startsWith pattern = pattern.isPrefixOf (text.drop c.pos) := by
  rw [Cursor.startsWith, h.rest]

end Cursor

namespace Trail

variable {t : Trail} {text : Bytes}

theorem run_append (t : Trail) (a b : List CursorStep) : t.run (a ++ b) = (t.run a).run b :=
  List.foldl_append

theorem run_append_singleton (t : Trail) (steps : List CursorStep) (s : CursorStep) :
    t.run (steps ++ [s]) = ((t.run steps).step s).1 := by
  rw [run_append]
  rfl

/-- The step behind some others is taken from where those have led. -/
theorem steps_append_singleton (t : Trail) (steps : List CursorStep) (s : CursorStep) :
    t.steps (steps ++ [s]) = t.steps steps ++ [(t.run steps).step s] := by
  induction steps generalizing t with
  | nil => rfl
  | cons s' steps ih =>
      have hrest := ih (t.step s').1
      rw [List.cons_append, Trail.steps, Trail.steps, hrest, List.cons_append]
      rfl

/-- The cursor and all places that are kept are places in the text. -/
def IsIn (t : Trail) (text : Bytes) : Prop := ∀ c ∈ t.cursor :: t.kept, c.IsIn text

theorem isIn_ofText (text : Bytes) : (ofText text).IsIn text := by
  rw [IsIn, ofText, List.forall_mem_singleton]
  exact Cursor.isIn_ofText text

theorem IsIn.skip (h : t.IsIn text) (n : Nat) :
    IsIn { t with cursor := t.cursor.skip n } text := by
  rw [IsIn, List.forall_mem_cons] at h ⊢
  exact ⟨h.1.skip n, h.2⟩

theorem IsIn.step (h : t.IsIn text) (s : CursorStep) : (t.step s).1.IsIn text := by
  cases s with
  | bump => exact h.skip 1
  | peek => exact h
  | skip n => exact h.skip n
  | startsWith pattern => exact h
  | save =>
      rw [IsIn, List.forall_mem_cons] at h
      rw [IsIn, Trail.step, List.forall_mem_cons, List.forall_mem_cons]
      exact ⟨h.1, h.1, h.2⟩
  | restore =>
      rw [Trail.step]
      split
      · exact h
      · rename_i c kept hkept
        rw [IsIn, List.forall_mem_cons, hkept] at h
        exact h.2

theorem IsIn.run (h : t.IsIn text) (steps : List CursorStep) : (t.run steps).IsIn text := by
  induction steps generalizing t with
  | nil => exact h
  | cons s steps ih => exact ih (h.step s)

/-- Steps that keep places and return to each of them, the latest first. -/
inductive Balanced : List CursorStep → Prop
  | nil : Balanced []
  | cons {s : CursorStep} {rest : List CursorStep} (hsave : s ≠ .save) (hrestore : s ≠ .restore)
      (hrest : Balanced rest) : Balanced (s :: rest)
  | nested {inner rest : List CursorStep} (hinner : Balanced inner) (hrest : Balanced rest) :
      Balanced (.save :: (inner ++ .restore :: rest))

theorem Balanced.append {a b : List CursorStep} (ha : Balanced a) (hb : Balanced b) :
    Balanced (a ++ b) := by
  induction ha with
  | nil => exact hb
  | cons hsave hrestore _ ih => exact .cons hsave hrestore ih
  | @nested inner rest hinner _ _ ih =>
      rw [List.cons_append, List.append_assoc]
      exact .nested hinner ih

theorem kept_step {s : CursorStep} (hsave : s ≠ .save) (hrestore : s ≠ .restore) (t : Trail) :
    (t.step s).1.kept = t.kept := by
  cases s with
  | bump => rfl
  | peek => rfl
  | skip n => rfl
  | startsWith pattern => rfl
  | save => exact absurd rfl hsave
  | restore => exact absurd rfl hrestore

theorem step_restore_of_kept {c : Cursor} {kept : List Cursor} (h : t.kept = c :: kept) :
    t.step .restore = (⟨c, kept⟩, .answer true) := by
  rw [step, h]

theorem step_restore_of_nil (h : t.kept = []) : t.step .restore = (t, .answer false) := by
  rw [step, h]

/-- A place that is kept behind a return was kept before, under the one returned to. -/
theorem exists_kept_of_restore {c : Cursor} {kept : List Cursor}
    (h : (t.step .restore).1.kept = c :: kept) : ∃ c', t.kept = c' :: c :: kept := by
  cases hkept : t.kept with
  | nil =>
      rw [step_restore_of_nil hkept, hkept] at h
      cases h
  | cons c' kept' =>
      rw [step_restore_of_kept hkept] at h
      exact ⟨c', by rw [← h]⟩

/-- Balanced steps leave the kept places as they were. -/
theorem Balanced.kept_run {steps : List CursorStep} (h : Balanced steps) (t : Trail) :
    (t.run steps).kept = t.kept := by
  induction h generalizing t with
  | nil => rfl
  | @cons s rest hsave hrestore _ ih =>
      calc (t.run (s :: rest)).kept = (t.step s).1.kept := ih _
        _ = t.kept := kept_step hsave hrestore t
  | @nested inner rest _ _ ihinner ihrest =>
      have hkept : ((t.step .save).1.run inner).kept = t.cursor :: t.kept := ihinner _
      calc (t.run (.save :: (inner ++ .restore :: rest))).kept
          = (((t.step .save).1.run inner).run (.restore :: rest)).kept := by
            rw [← run_append]
            rfl
        _ = (((t.step .save).1.run inner).step .restore).1.kept := ihrest _
        _ = t.kept := by rw [step_restore_of_kept hkept]

/-- Behind a save and balanced steps, the latest place kept is the one before the save. -/
theorem Balanced.kept_run_save {inner : List CursorStep} (h : Balanced inner) (t : Trail) :
    (t.run (.save :: inner)).kept = t.cursor :: t.kept :=
  h.kept_run (t.step .save).1

/-- Each kept place comes from a save, and the steps behind that save are balanced. -/
theorem exists_save {steps : List CursorStep} (ht : t.kept = []) {c : Cursor}
    {kept : List Cursor} (h : (t.run steps).kept = c :: kept) :
    ∃ before inner, steps = before ++ .save :: inner ∧ Balanced inner := by
  -- a return is led back past all that its save began, so the length goes down, not the list
  induction hn : steps.length using Nat.strongRecOn generalizing steps c kept with
  | ind n ih =>
      rcases List.eq_nil_or_concat steps with rfl | ⟨init, s, rfl⟩
      · rw [run, List.foldl_nil, ht] at h
        cases h
      · rw [List.concat_eq_append] at h hn ⊢
        rw [run_append_singleton] at h
        have hinit : init.length < n := by
          rw [← hn, List.length_append]
          exact Nat.lt_succ_self _
        by_cases hsave : s = .save
        · exact ⟨init, [], by rw [hsave], .nil⟩
        · by_cases hrestore : s = .restore
          · subst hrestore
            -- the return matches a save, before which the place was kept already
            obtain ⟨c', hkept⟩ := exists_kept_of_restore h
            obtain ⟨before', inner', rfl, hinner'⟩ := ih _ hinit hkept rfl
            rw [run_append, hinner'.kept_run_save] at hkept
            have hbefore : before'.length < n := by
              rw [List.length_append] at hinit
              omega
            obtain ⟨before, inner, rfl, hinner⟩ := ih _ hbefore (List.cons.inj hkept).2 rfl
            refine ⟨before, inner ++ .save :: (inner' ++ [.restore]), by simp, ?_⟩
            exact hinner.append (.nested hinner' .nil)
          · rw [kept_step hsave hrestore] at h
            obtain ⟨before, inner, rfl, hinner⟩ := ih _ hinit h rfl
            refine ⟨before, inner ++ [s], by simp, ?_⟩
            exact hinner.append (.cons hsave hrestore .nil)

/-- A cursor that starts at the beginning of a text never drifts, whatever steps are taken. It
and all places kept stand in the text, with the line that the newlines behind them say. Moving
stops at the end of the text, and looking moves nothing. A return goes back to where the save
stands that it matches, with the places kept there; where no save is open, nothing happens. -/
theorem run_keeps_place (text : Bytes) (steps : List CursorStep) :
    let t := (Trail.ofText text).run steps
    (∀ s, (Trail.ofText text).steps (steps ++ [s]) =
      (Trail.ofText text).steps steps ++ [t.step s]) ∧
    (∀ c ∈ t.cursor :: t.kept, c.StandsIn text) ∧
    (∀ n, (t.step (.skip n)).1.cursor.pos = min (t.cursor.pos + n) text.length) ∧
    t.step .bump = ((t.step (.skip 1)).1, .ofByte? text[t.cursor.pos]?) ∧
    t.step .peek = (t, .ofByte? text[t.cursor.pos]?) ∧
    (∀ pattern, t.step (.startsWith pattern) =
      (t, .answer (pattern.isPrefixOf (text.drop t.cursor.pos)))) ∧
    (∀ before inner, steps = before ++ .save :: inner → Balanced inner →
      t.step .restore = ((Trail.ofText text).run before, .answer true)) ∧
    ((∀ before inner, Balanced inner → steps ≠ before ++ .save :: inner) →
      t.step .restore = (t, .answer false)) := by
  intro t
  have ht : t.IsIn text := (isIn_ofText text).run steps
  have hstands : ∀ c ∈ t.cursor :: t.kept, c.StandsIn text := fun c hc => (ht c hc).standsIn
  have hcursor := hstands t.cursor List.mem_cons_self
  refine ⟨steps_append_singleton _ steps, hstands, (ht t.cursor List.mem_cons_self).pos_skip,
    ?_, ?_, fun pattern => ?_, ?_, fun hnone => ?_⟩
  · rw [← hcursor.peek?]
    rfl
  · rw [← hcursor.peek?]
    rfl
  · rw [← hcursor.startsWith]
    rfl
  · rintro before inner rfl hinner
    have hkept := hinner.kept_run_save ((Trail.ofText text).run before)
    rw [← run_append] at hkept
    exact step_restore_of_kept hkept
  · cases hkept : t.kept with
    | nil => exact step_restore_of_nil hkept
    | cons c kept =>
        obtain ⟨before, inner, hsteps, hinner⟩ := exists_save rfl hkept
        exact absurd hsteps (hnone before inner hinner)

/-- Two saves, of which the later one is returned to behind the end of the text. -/
def savesTwice : List CursorStep := [.bump, .save, .skip 1, .save, .bump, .skip 9, .restore, .peek]

theorem run_keeps_place_savesTwice :
    let t := (Trail.ofText [0x61, newline, 0x62]).run savesTwice
    t.cursor.pos = 2 ∧ t.cursor.line = 1 ∧ t.cursor.atLineStart = true ∧
      t.step .restore = ((Trail.ofText [0x61, newline, 0x62]).run [.bump], .answer true) := by
  intro t
  have hlater : Balanced [.bump, .skip 9] :=
    .cons (by decide) (by decide) (.cons (by decide) (by decide) .nil)
  have hpeek : Balanced [.peek] := .cons (by decide) (by decide) .nil
  have hinner : Balanced [.skip 1, .save, .bump, .skip 9, .restore, .peek] :=
    .cons (by decide) (by decide) (hlater.nested hpeek)
  obtain ⟨_, hstands, _, _, _, _, hrestore, _⟩ :=
    run_keeps_place [0x61, newline, 0x62] savesTwice
  have hcursor := hstands t.cursor List.mem_cons_self
  have hpos : t.cursor.pos = 2 := by decide
  refine ⟨hpos, ?_, ?_, hrestore [.bump] _ rfl hinner⟩
  · rw [hcursor.line, hpos]
    rfl
  · exact hcursor.atLineStart.2 (.inr ⟨1, hpos, rfl⟩)

end Trail

end FencedDiff
