import FencedDiff.Proofs.Fence.Agreement

/-!
# What an attempt tells

With enough steps left, an attempt at a fence tells of the line before it what the signature
of the line says, and an attempt at a block tells whether the line opens one that is closed.
An attempt that succeeds leaves the cursor at the end of what it has read, and one at a
closing fence or a block that fails leaves it where it was (`attempts_tell_signatures`).

The line is given by the text on both sides of it. So it may also be the empty one behind
the last newline, which is no line of the document, and before which no attempt succeeds.
-/

namespace FencedDiff

open Bytes

/-- A line of a text stands between what comes before and what comes after. It begins the text
or comes behind a newline, and goes on through the next newline or, if there is none, to the
end of the text. -/
structure IsLineBetween (before line after : Bytes) : Prop where
  begins : before = [] ∨ before.getLast? = some newline
  ends : EndsInNewline line ∨ newline ∉ line ∧ after = []

/-- The cursor stands between the bytes behind it and those ahead. -/
structure Cursor.Between (c : Cursor) (behind ahead : Bytes) : Prop where
  rest : c.rest = ahead
  pos : c.pos = behind.length
  line : c.line = behind.count newline
  atLineStart : c.atLineStart = true ↔ behind = [] ∨ behind.getLast? = some newline

namespace Cursor

theorem between_ofText (text : Bytes) : (ofText text).Between [] text :=
  ⟨rfl, rfl, rfl, by simp [ofText]⟩

theorem Between.skip {c : Cursor} {behind a ahead : Bytes} (h : c.Between behind (a ++ ahead)) :
    (c.skip a.length).Between (behind ++ a) ahead := by
  refine ⟨rest_skip_append h.rest, ?_, ?_, ?_⟩
  · rw [pos_skip_append h.rest, h.pos, List.length_append]
  · rw [line_skip_append h.rest, h.line, List.count_append]
  · rcases List.eq_nil_or_concat a with rfl | ⟨init, last, rfl⟩
    · rw [List.append_nil]
      exact h.atLineStart
    · rw [atLineStart_skip_append h.rest (by simp)]
      simp

end Cursor

namespace IsLineBetween

variable {before line after : Bytes} (h : IsLineBetween before line after)
include h

theorem isCut (hne : line ≠ []) : IsCut (line :: splitLines after) := by
  rcases h.ends with hend | ⟨hline, rfl⟩
  · exact .cons hend (isCut_splitLines after).1
  · exact .last hline hne

theorem after_eq_nil (hline : line = []) : after = [] := by
  rcases h.ends with hend | ⟨_, hafter⟩
  · exact absurd hline hend.ne_nil
  · exact hafter

/-- A cursor before a line stands before all lines from there on. -/
theorem cursor_before {c : Cursor} (hc : c.Between before (line ++ after)) :
    c.Before (before.count newline) before.length (line :: splitLines after) where
  rest := by rw [hc.rest, List.flatten_cons, flatten_splitLines]
  pos := hc.pos
  line _ := hc.line
  atLineStart _ := hc.atLineStart.2 h.begins

end IsLineBetween

namespace Backtracking

/-- The line begins a block: it is an opening fence with its newline, and a closing fence
follows. -/
def BeginsBlock (line after : Bytes) : Prop :=
  isOpeningLine line = true ∧ ∃ l ∈ splitLines after, signature l = some .closing

/-- The steps of an attempt at a block before a line. -/
def blockSteps (line after : Bytes) : Nat :=
  openingSteps line + if isOpeningLine line then searchSteps (splitLines after) else 0

/-- A computation that takes its steps succeeds under a limit that grants them. -/
theorem Takes.eq_ok {α : Type} {f : Nat → Except LimitExceeded α} {steps n limit : Nat} {a : α}
    (h : Takes f steps n a) (hlimit : steps + n ≤ limit) : f limit = .ok a := by
  rw [h limit (by omega), charge, if_pos hlimit]

section Line

variable {before line after : Bytes} (hline : IsLineBetween before line after) {start : Progress}
  (hstart : start.cursor.Between before (line ++ after))
include hline hstart

theorem exists_takes_tryOpen :
    ∃ q found, Takes (fun limit => tryOpen limit start) start.steps (openingSteps line)
        (q, found) ∧
      (∀ n, found = some n ↔ EndsInNewline line ∧ signature line = some (.opening n)) ∧
      (found ≠ none → q.cursor.Between (before ++ line) after) := by
  by_cases h : ∃ n, EndsInNewline line ∧ signature line = some (.opening n)
  · obtain ⟨n, hend, hopening⟩ := h
    have htakes := takes_tryOpen_line (hline.cursor_before hstart).rest hend hopening
    rw [← openingSteps_of_opening hopening] at htakes
    refine ⟨_, _, htakes, fun m => ?_, fun _ => ?_⟩
    · rw [hopening, and_iff_right hend, Option.some.injEq, Option.some.injEq,
        Signature.opening.injEq]
    · rw [openingSteps_of_opening hopening]
      exact hstart.skip
  · rw [not_exists] at h
    have hnone : ∀ n, (none : Option Nat) = some n ↔
        EndsInNewline line ∧ signature line = some (.opening n) := by
      simpa using h
    by_cases hne : line = []
    · obtain rfl := hline.after_eq_nil hne
      subst hne
      have hrest : start.cursor.rest = [] ++ [] := hstart.rest
      have htakes := takes_tryOpen_of_not_opening hrest (by simp) (.inl rfl) (.inl rfl)
      exact ⟨_, _, htakes, hnone, fun h => absurd rfl h⟩
    · have htakes := takes_tryOpen_line_none (hline.isCut hne) (hline.cursor_before hstart).rest
        fun n hopening hend => h n ⟨hend, hopening⟩
      exact ⟨_, _, htakes, hnone, fun h => absurd rfl h⟩

theorem exists_takes_tryClose :
    ∃ q found, Takes (fun limit => tryClose limit start) start.steps (closingSteps line)
        (q, found) ∧
      (found = true ↔ signature line = some .closing) ∧
      (found = true → q.cursor.Between (before ++ line) after) := by
  by_cases h : signature line = some .closing
  · have hne : line ≠ [] := by
      rintro rfl
      exact absurd h (by decide)
    have htakes := takes_tryClose_line (hline.isCut hne) (hline.cursor_before hstart).rest h
    rw [← closingSteps_of_closing h] at htakes
    refine ⟨_, _, htakes, iff_of_true rfl h, fun _ => ?_⟩
    rw [closingSteps_of_closing h]
    exact hstart.skip
  · have hfound : false = true ↔ signature line = some .closing :=
      iff_of_false Bool.false_ne_true h
    by_cases hne : line = []
    · obtain rfl := hline.after_eq_nil hne
      subst hne
      have hrest : start.cursor.rest = [] ++ [] := hstart.rest
      have htakes := takes_tryClose_of_not_closing hrest (by simp) (.inl rfl) h
      exact ⟨_, _, htakes, hfound, fun h => absurd h Bool.false_ne_true⟩
    · have htakes := takes_tryClose_line_false (hline.isCut hne) (hline.cursor_before hstart).rest h
      exact ⟨_, _, htakes, hfound, fun h => absurd h Bool.false_ne_true⟩

theorem exists_takes_tryBlock :
    ∃ q found, Takes (fun limit => tryBlock limit start) start.steps (blockSteps line after)
        (q, found) ∧ (found = none ↔ ¬ BeginsBlock line after) := by
  by_cases hopen : isOpeningLine line = true
  · obtain ⟨⟨n, hopening⟩, hlast⟩ := isOpeningLine_iff.1 hopen
    have hne : line ≠ [] := by
      rintro rfl
      cases hlast
    have hcut := hline.isCut hne
    have hbefore := hline.cursor_before hstart
    rw [blockSteps, if_pos hopen]
    rcases closing_first (splitLines after) with
      hnone | ⟨body, closing, lines, hlines, hbody, hclosing⟩
    · have hend := hcut.endsInNewline_of_getLast? hlast
      refine ⟨_, _, takes_tryBlock_unclosed hcut hbefore.rest hend hopening hnone,
        iff_of_true rfl ?_⟩
      rintro ⟨_, l, hl, hclosing⟩
      exact hnone l hl hclosing
    · have hbegins : BeginsBlock line after := ⟨hopen, closing, by simp [hlines], hclosing⟩
      rw [hlines] at hcut hbefore ⊢
      exact ⟨_, _, takes_tryBlock_block hcut hopening hbody hclosing hbefore,
        iff_of_false (by simp) (not_not_intro hbegins)⟩
  · have hnot : ¬ BeginsBlock line after := fun h => hopen h.1
    obtain ⟨q, found, htakes, hfound, _⟩ := exists_takes_tryOpen hline hstart
    have hnone : found = none := by
      rw [Option.eq_none_iff_forall_ne_some]
      intro n hn
      obtain ⟨hend, hopening⟩ := (hfound n).1 hn
      exact hopen (isOpeningLine_iff.2 ⟨⟨n, hopening⟩, hend.getLast?⟩)
    subst hnone
    rw [blockSteps, if_neg hopen]
    refine ⟨q.returnTo start.cursor, none, ?_, iff_of_true rfl hnot⟩
    unfold tryBlock
    exact htakes.bind (Takes.pure _ _)

end Line

/-- With enough steps, attempts before a line of a text tell what its signature says. Those that
find a fence read the line to its end. A cursor that has found no closing fence or no block has
returned, whatever the limit. -/
theorem attempts_tell_signatures {before line after : Bytes}
    (hline : IsLineBetween before line after) {start : Progress}
    (hstart : start.cursor.Between before (line ++ after)) :
    (∀ limit, start.steps + openingSteps line ≤ limit →
      ∃ q found, tryOpen limit start = .ok (q, found) ∧
        (∀ n, found = some n ↔ EndsInNewline line ∧ signature line = some (.opening n)) ∧
        (found ≠ none → q.cursor.Between (before ++ line) after)) ∧
    (∀ limit, start.steps + closingSteps line ≤ limit →
      ∃ q found, tryClose limit start = .ok (q, found) ∧
        (found = true ↔ signature line = some .closing) ∧
        (found = true → q.cursor.Between (before ++ line) after)) ∧
    (∀ limit, start.steps + blockSteps line after ≤ limit →
      ∃ q found, tryBlock limit start = .ok (q, found) ∧
        (found = none ↔ ¬ BeginsBlock line after)) ∧
    (∀ limit q, tryClose limit start = .ok (q, false) → q.cursor = start.cursor) ∧
    ∀ limit q, tryBlock limit start = .ok (q, none) → q.cursor = start.cursor := by
  refine ⟨fun limit hlimit => ?_, fun limit hlimit => ?_, fun limit hlimit => ?_,
    fun _ _ => cursor_of_tryClose_false, fun _ _ => cursor_of_tryBlock_none⟩
  · obtain ⟨q, found, htakes, htells⟩ := exists_takes_tryOpen hline hstart
    exact ⟨q, found, htakes.eq_ok hlimit, htells⟩
  · obtain ⟨q, found, htakes, htells⟩ := exists_takes_tryClose hline hstart
    exact ⟨q, found, htakes.eq_ok hlimit, htells⟩
  · obtain ⟨q, found, htakes, htells⟩ := exists_takes_tryBlock hline hstart
    exact ⟨q, found, htakes.eq_ok hlimit, htells⟩

/-- The lines in front of a closing fence. -/
def fenceAndRemoval : Bytes := ticks ++ tag ++ [newline, 0x2D, 0x61, newline]

/-- A closing fence with a blank and a carriage return, but without newline. -/
def barelyClosing : Bytes := spaces 2 ++ ticks ++ [tab, carriageReturn]

/-- A scan that has come to the closing fence in three steps. -/
def beforeClosing : Progress :=
  ⟨(Cursor.ofText (fenceAndRemoval ++ barelyClosing)).skip fenceAndRemoval.length, 3⟩

theorem attempts_tell_signatures_barelyClosing :
    (∃ q, tryClose 10 beforeClosing = .ok (q, true) ∧
        q.cursor.Between (fenceAndRemoval ++ barelyClosing) []) ∧
      ∃ q, tryOpen 8 beforeClosing = .ok (q, none) := by
  have hline : IsLineBetween fenceAndRemoval barelyClosing [] :=
    ⟨.inr (by decide), .inr ⟨by decide, rfl⟩⟩
  have hstart : beforeClosing.cursor.Between fenceAndRemoval (barelyClosing ++ []) :=
    (Cursor.between_ofText _).skip
  have hsignature : signature barelyClosing = some .closing := by decide
  obtain ⟨hopen, hclose, _⟩ := attempts_tell_signatures hline hstart
  obtain ⟨q, found, hq, htells, hend⟩ := hclose 10 (by decide)
  obtain ⟨r, opened, hr, hopened, _⟩ := hopen 8 (by decide)
  obtain rfl : found = true := htells.2 hsignature
  refine ⟨⟨q, hq, hend rfl⟩, r, ?_⟩
  have hnone : opened = none := by
    rw [Option.eq_none_iff_forall_ne_some]
    intro n hn
    rw [hsignature] at hopened
    cases ((hopened n).1 hn).2
  rw [hr, hnone]

end Backtracking

end FencedDiff
