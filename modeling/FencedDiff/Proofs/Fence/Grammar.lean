import FencedDiff.Fence.Signature
import FencedDiff.Proofs.Text.Ending

/-!
# The grammar of fence lines

`IsOpening n` and `IsClosing` say what the two fences look like, as
concatenations of their parts. The signature of a line, which is computed on
the line without its ending, recognizes exactly these
(`signature_eq_opening_iff`, `signature_eq_closing_iff`).
-/

namespace FencedDiff

open Bytes

/-- An opening fence: `n` spaces, three backticks, the tag, then anything. -/
def IsOpening (n : Nat) (line : Bytes) : Prop :=
  ∃ rest, line = spaces n ++ ticks ++ tag ++ rest

/-- A closing fence: spaces, three backticks, blanks, carriage returns, and then
the newline or the end of the text. -/
def IsClosing (line : Bytes) : Prop :=
  ∃ n blanks returns stop, (∀ b ∈ blanks, b = space ∨ b = tab) ∧
    (∀ b ∈ returns, b = carriageReturn) ∧ (stop = [newline] ∨ stop = []) ∧
    line = spaces n ++ ticks ++ blanks ++ returns ++ stop

/-- Leading spaces are cut off as one run. -/
theorem spaces_append_drop_of_le {s : Bytes} {n : Nat} (h : n ≤ leadingSpaces s) :
    spaces n ++ s.drop n = s := by
  rw [← take_eq_spaces h, List.take_append_drop]

theorem spaces_append_drop (s : Bytes) :
    spaces (leadingSpaces s) ++ s.drop (leadingSpaces s) = s :=
  spaces_append_drop_of_le (Nat.le_refl _)

@[simp] theorem leadingSpaces_spaces_ticks (n : Nat) (s : Bytes) :
    leadingSpaces (spaces n ++ (ticks ++ s)) = n := by
  rw [leadingSpaces_spaces_append]
  rfl

theorem drop_spaces_append (n : Nat) (s : Bytes) : (spaces n ++ s).drop n = s := by
  rw [List.drop_left' (length_spaces n)]

theorem isLineEnd_of_isBlankByte {b : UInt8} (h : isBlankByte b = true) :
    isLineEnd b = false := by
  rw [isBlankByte, Bool.or_eq_true, beq_iff_eq, beq_iff_eq] at h
  rcases h with rfl | rfl <;> rfl

theorem lineContent_ticks_append (n : Nat) (s : Bytes) :
    lineContent (spaces n ++ ticks ++ s) = spaces n ++ ticks ++ lineContent s := by
  have h := lineContent_append_cons (b := 0x60) (by decide)
    (spaces n ++ [0x60, 0x60]) s
  simpa [ticks] using h

theorem lineContent_tag_append (s : Bytes) :
    lineContent (tag ++ s) = tag ++ lineContent s := by
  have h := lineContent_append_cons (b := 0x66) (by decide) [0x64, 0x69, 0x66] s
  simpa [tag] using h

theorem signatureOfContent_eq_opening_iff {content : Bytes} {n : Nat} :
    signatureOfContent content = some (.opening n) ↔ IsOpening n content := by
  constructor
  · intro h
    simp only [signatureOfContent] at h
    split at h
    · rename_i hpre
      simp only [Option.some.injEq, Signature.opening.injEq] at h
      obtain ⟨rest, hrest⟩ := List.isPrefixOf_iff_prefix.1 hpre
      refine ⟨rest, ?_⟩
      rw [← spaces_append_drop content, ← hrest, h]
      simp
    · split at h <;> simp at h
  · rintro ⟨rest, rfl⟩
    have hpre : (ticks ++ tag).isPrefixOf (ticks ++ (tag ++ rest)) = true := by
      rw [← List.append_assoc, List.isPrefixOf_iff_prefix]
      exact List.prefix_append _ _
    simp only [signatureOfContent, List.append_assoc, leadingSpaces_spaces_ticks,
      drop_spaces_append, hpre, if_true]

theorem signatureOfContent_eq_closing_iff {content : Bytes} :
    signatureOfContent content = some .closing ↔
      ∃ n blanks, (∀ b ∈ blanks, isBlankByte b = true) ∧
        content = spaces n ++ ticks ++ blanks := by
  constructor
  · intro h
    simp only [signatureOfContent] at h
    split at h
    · simp at h
    · split at h
      · rename_i hfence
        rw [Bool.and_eq_true, List.all_eq_true] at hfence
        obtain ⟨blanks, hblanks⟩ := List.isPrefixOf_iff_prefix.1 hfence.1
        refine ⟨leadingSpaces content, blanks, ?_, ?_⟩
        · simpa [← hblanks] using hfence.2
        · rw [List.append_assoc, hblanks, spaces_append_drop]
      · simp at h
  · rintro ⟨n, blanks, hblanks, rfl⟩
    have hopen : ¬ (ticks ++ tag).isPrefixOf (ticks ++ blanks) = true := by
      rw [List.isPrefixOf_iff_prefix, List.prefix_append_right_inj]
      rintro ⟨rest, rfl⟩
      -- the tag would begin with a blank
      have := hblanks 0x64 (by simp [tag])
      simp [isBlankByte, space, tab] at this
    have htick : ticks.isPrefixOf (ticks ++ blanks) = true := by
      rw [List.isPrefixOf_iff_prefix]
      exact List.prefix_append _ _
    have hall : blanks.all isBlankByte = true := List.all_eq_true.2 hblanks
    simp only [signatureOfContent, List.append_assoc, leadingSpaces_spaces_ticks,
      drop_spaces_append, hopen, htick, List.drop_left, hall]
    rfl

/-- The ending of a line has no influence on its signature. -/
theorem signature_append_of_forall {s e : Bytes}
    (h : ∀ b ∈ e, isLineEnd b = true) : signature (s ++ e) = signature s := by
  rw [signature, signature, lineContent_append_of_forall h]

/-- The opening fences are the lines that the grammar calls so. -/
theorem signature_eq_opening_iff {line : Bytes} {n : Nat} :
    signature line = some (.opening n) ↔ IsOpening n line := by
  rw [signature, signatureOfContent_eq_opening_iff]
  constructor
  · rintro ⟨rest, hrest⟩
    refine ⟨rest ++ lineEnding line, ?_⟩
    rw [← List.append_assoc, ← hrest, lineContent_append_lineEnding]
  · rintro ⟨rest, rfl⟩
    refine ⟨lineContent rest, ?_⟩
    rw [List.append_assoc _ tag, lineContent_ticks_append, lineContent_tag_append,
      ← List.append_assoc]

theorem signature_of_blanks (n : Nat) {blanks e : Bytes}
    (hblanks : ∀ b ∈ blanks, isBlankByte b = true) (he : ∀ b ∈ e, isLineEnd b = true) :
    signature (spaces n ++ ticks ++ blanks ++ e) = some .closing := by
  rw [signature_append_of_forall he, signature, lineContent_ticks_append,
    lineContent_of_forall_not fun b hb => isLineEnd_of_isBlankByte (hblanks b hb)]
  exact signatureOfContent_eq_closing_iff.2 ⟨n, blanks, hblanks, rfl⟩

/-- The closing fences are the lines that the grammar calls so. The newline, if
there is one, has to be the end of the line: as bytes of an ending, newlines and
carriage returns could otherwise stand in any order. -/
theorem signature_eq_closing_iff {run stop : Bytes} (hrun : newline ∉ run)
    (hstop : stop = [newline] ∨ stop = []) :
    signature (run ++ stop) = some .closing ↔ IsClosing (run ++ stop) := by
  have hend : ∀ {e : Bytes}, e = [newline] ∨ e = [] → ∀ b ∈ e, isLineEnd b = true := by
    rintro e (rfl | rfl) <;> simp [isLineEnd]
  rw [signature_append_of_forall (hend hstop)]
  constructor
  · intro h
    obtain ⟨n, blanks, hblanks, hcontent⟩ := signatureOfContent_eq_closing_iff.1 h
    refine ⟨n, blanks, lineEnding run, stop, ?_, ?_, hstop, ?_⟩
    · intro b hb
      simpa [isBlankByte] using hblanks b hb
    · intro b hb
      have hb' := isLineEnd_of_mem_lineEnding hb
      have hmem : b ∈ run := mem_of_mem_lineEnding hb
      rw [isLineEnd, Bool.or_eq_true, beq_iff_eq, beq_iff_eq] at hb'
      exact hb'.resolve_right fun hn => hrun (hn ▸ hmem)
    · rw [← hcontent, lineContent_append_lineEnding]
  · rintro ⟨n, blanks, returns, stop', hblanks, hreturns, hstop', hline⟩
    have hblank : ∀ b ∈ blanks, isBlankByte b = true := by
      intro b hb
      simpa [isBlankByte] using hblanks b hb
    have hreturn : ∀ b ∈ returns, isLineEnd b = true := by
      intro b hb
      rw [hreturns b hb]
      rfl
    rw [← signature_append_of_forall (hend hstop), hline,
      signature_append_of_forall (hend hstop'), signature_of_blanks n hblank hreturn]

end FencedDiff
