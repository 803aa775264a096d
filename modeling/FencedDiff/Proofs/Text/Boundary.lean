import FencedDiff.Proofs.Text.Cut
import FencedDiff.Text.Preview
import FencedDiff.Text.Utf8

/-!
# Line boundaries

A line boundary is an end of the text or the place behind a newline. In a text
that can be decoded, no byte of a longer encoding is a newline and no encoding
begins with a continuation byte, so every line boundary lies between two
characters (`isCharBoundary_of_isLineBoundary`).
-/

namespace FencedDiff

open Bytes

/-- The place is an end of the text, or lies behind a newline. -/
def IsLineBoundary (text : Bytes) (place : Nat) : Prop :=
  place = 0 ∨ place = text.length ∨
    ∃ before after, text = before ++ newline :: after ∧ place = before.length + 1

theorem isLineBoundary_flatten {a b : List Bytes} (h : IsCut (a ++ b)) :
    IsLineBoundary (a ++ b).flatten a.flatten.length := by
  cases b with
  | nil => exact .inr (.inl (by simp))
  | cons next b =>
      rcases List.eq_nil_or_concat a with rfl | ⟨init, last, rfl⟩
      · exact .inl rfl
      · have hlast := (IsCut.append_cons_iff.1 h).1 last (by simp)
        obtain ⟨body, _, rfl⟩ := hlast
        refine .inr (.inr ⟨init.flatten ++ body, (next :: b).flatten, ?_, ?_⟩)
        · simp
        · simp
          omega

namespace Utf8

/-- A character does not begin with a continuation byte, and its continuation
bytes are not ASCII. -/
theorem isContinuation_of_lead? {b : UInt8} {l : Lead} (h : lead? b = some l) :
    isContinuation b = false ∧ 0x80 ≤ l.low := by
  have hascii : b < 0x80 ∨ ¬ b < 0xC2 → isContinuation b = false := by
    rw [isContinuation, Bool.and_eq_false_iff, decide_eq_false_iff_not,
      decide_eq_false_iff_not]
    simp only [UInt8.le_iff_toNat_le, UInt8.lt_iff_toNat_lt, UInt8.reduceToNat]
    omega
  rw [lead?] at h
  split at h
  · rename_i hb
    refine ⟨hascii (.inl hb), ?_⟩
    rw [← Option.some.inj h]
    exact UInt8.le_refl _
  · split at h
    · simp at h
    · rename_i hb
      refine ⟨hascii (.inr hb), ?_⟩
      split at h
      · rw [← Option.some.inj h]
        exact UInt8.le_refl _
      · split at h
        · rw [← Option.some.inj h]
          dsimp only
          split <;> decide
        · split at h
          · rw [← Option.some.inj h]
            dsimp only
            split <;> decide
          · simp at h

/-- What is read as continuation bytes is cut off the front and holds no newline. -/
theorem exists_of_readTails {low high : UInt8} {seen code n : Nat} {s r : Bytes}
    {c : Nat} (hlow : 0x80 ≤ low) (h : readTails low high seen code n s = .ok (c, r)) :
    ∃ t, s = t ++ r ∧ newline ∉ t := by
  induction n generalizing low high seen code s with
  | zero =>
      simp only [readTails, Except.ok.injEq, Prod.mk.injEq] at h
      exact ⟨[], h.2, by simp⟩
  | succ n ih =>
      cases s with
      | nil => simp [readTails] at h
      | cons b s =>
          simp only [readTails] at h
          split at h
          · rename_i hb
            obtain ⟨t, rfl, ht⟩ := ih (by decide) h
            refine ⟨b :: t, rfl, ?_⟩
            rw [List.mem_cons, not_or]
            refine ⟨?_, ht⟩
            rintro rfl
            rw [Bool.and_eq_true, decide_eq_true_eq] at hb
            exact absurd (UInt8.le_trans hlow hb.1) (by decide)
          · simp at h

theorem isContinuation_head {index : Nat} {done chars : List Char} {b : UInt8}
    {rest : Bytes} (h : decodeFrom index done (b :: rest) = .ok chars) :
    isContinuation b = false := by
  rw [decodeFrom] at h
  cases hl : lead? b with
  | none => simp [hl] at h
  | some l => exact (isContinuation_of_lead? hl).1

/-- In a text that can be decoded, a byte behind a newline begins a character. -/
theorem isContinuation_after_newline {index : Nat} {done chars : List Char}
    {before after : Bytes} {b : UInt8}
    (h : decodeFrom index done (before ++ newline :: b :: after) = .ok chars) :
    isContinuation b = false := by
  generalize hs : before ++ newline :: b :: after = s at h
  fun_induction decodeFrom index done s generalizing before with
  | case1 => simp at hs
  | case2 => simp at h
  | case3 => simp at h
  | case4 index done c rest l hl code s' hr ih =>
      cases before with
      | nil =>
          -- the newline is a character of its own
          obtain ⟨rfl, rfl⟩ := List.cons.inj hs
          obtain rfl : l = ⟨0, 0x80, 0xBF, 10⟩ := by
            rw [← Option.some.inj hl]
            decide
          simp only [readTails, Except.ok.injEq, Prod.mk.injEq] at hr
          exact isContinuation_head (hr.2 ▸ h)
      | cons c' before =>
          obtain ⟨rfl, hrest⟩ := List.cons.inj hs
          obtain ⟨t, rfl, ht⟩ := exists_of_readTails (isContinuation_of_lead? hl).2 hr
          -- the newline comes after the continuation bytes
          rcases List.append_eq_append_iff.1 hrest with
            ⟨t', rfl, hs'⟩ | ⟨t', rfl, hs'⟩
          · cases t' with
            | nil => exact ih ((List.nil_append _).trans hs') h
            | cons d t' =>
                obtain ⟨rfl, _⟩ := List.cons.inj hs'
                simp at ht
          · exact ih hs'.symm h

end Utf8

/-- In a text that can be decoded, line boundaries lie between characters. -/
theorem isCharBoundary_of_isLineBoundary {text : Bytes} {chars : List Char}
    (h : Utf8.decode text = .ok chars) {place : Nat} (hplace : IsLineBoundary text place) :
    isCharBoundary text place = true := by
  rcases hplace with rfl | rfl | ⟨before, after, rfl, rfl⟩
  · simp [isCharBoundary]
  · simp [isCharBoundary]
  · cases after with
    | nil => simp [isCharBoundary]
    | cons b after =>
        have hb := Utf8.isContinuation_after_newline h
        simp [isCharBoundary, hb]

end FencedDiff
