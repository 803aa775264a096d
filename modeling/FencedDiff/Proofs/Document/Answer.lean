import FencedDiff.Proofs.Document.Outcome

/-!
# Which answer a pass gives

There are four answers, and each has its condition on the document and the
options: a document that is too large is refused before it is scanned, a scan that
runs out of steps lets the document through, and a fence that is too deep fails the
pass, be there anything to realign behind it or not. Otherwise the pass succeeds.

`Answers` is the table of these conditions, which exclude each other, and
`answers_format` finds the answer of a pass in it. Read from the answers to the
conditions it is `format_determined`.
-/

namespace FencedDiff

/-- The scanner of the options gives up on the text: it scans with backtracking, and the
scan takes more steps than its budget. -/
def RunsOut (options : Options) (text : Bytes) : Prop :=
  options.scanner = .backtracking ∧
    ∃ e, scanBacktracking text (options.limits.scanBudget text.length) = .error e

/-- The first of the blocks that is indented deeper than `max`. -/
def IsFirstDeeper (max : Nat) (blocks : List Block) (b : Block) : Prop :=
  ∃ before after, blocks = before ++ b :: after ∧ (∀ a ∈ before, a.indent ≤ max) ∧
    max < b.indent

variable {options : Options} {text : Bytes}

theorem runsOut_iff : RunsOut options text ↔ ∃ e, scan options text = .error e := by
  unfold RunsOut scan
  cases options.scanner with
  | lines => simp
  | backtracking => simp

theorem scan_eq_ok_iff : scan options text = .ok (scanLines text) ↔ ¬ RunsOut options text := by
  rw [runsOut_iff]
  rcases scan_eq options text with hlines | ⟨e, herror⟩
  · simp [hlines]
  · simp [herror]

section FirstDeeper

variable {max : Nat} {blocks : List Block} {a b : Block}

theorem isFirstDeeper_iff :
    IsFirstDeeper max blocks b ↔ blocks.find? (fun b => max < b.indent) = some b := by
  rw [List.find?_eq_some_iff_append, IsFirstDeeper]
  constructor
  · rintro ⟨before, after, hblocks, hbefore, hb⟩
    exact ⟨by simpa using hb, before, after, hblocks, by simpa using hbefore⟩
  · rintro ⟨hb, before, after, hblocks, hbefore⟩
    exact ⟨before, after, hblocks, by simpa using hbefore, by simpa using hb⟩

theorem IsFirstDeeper.unique (ha : IsFirstDeeper max blocks a)
    (hb : IsFirstDeeper max blocks b) : a = b := by
  rw [isFirstDeeper_iff] at ha hb
  exact Option.some.inj (ha.symm.trans hb)

theorem IsFirstDeeper.mem (h : IsFirstDeeper max blocks b) : b ∈ blocks := by
  obtain ⟨before, after, rfl, _⟩ := h
  simp

theorem IsFirstDeeper.lt (h : IsFirstDeeper max blocks b) : max < b.indent := by
  obtain ⟨before, after, _, _, hlt⟩ := h
  exact hlt

theorem exists_isFirstDeeper (h : ∃ b ∈ blocks, max < b.indent) :
    ∃ b, IsFirstDeeper max blocks b := by
  simp only [isFirstDeeper_iff, ← Option.isSome_iff_exists]
  simpa using h

end FirstDeeper

/-- The answers of a pass and their conditions. -/
inductive Answers (options : Options) (text : Bytes) : Except FormatError Formatted → Prop
  | tooLarge (hlarge : options.limits.maxDocumentBytes.toNat < text.length) :
      Answers options text
        (.error (.documentTooLarge text.length options.limits.maxDocumentBytes.toNat))
  | passedThrough (hlength : text.length ≤ options.limits.maxDocumentBytes.toNat)
      (hout : RunsOut options text) :
      Answers options text (.ok ⟨text, { passthrough := true }⟩)
  | tooDeep (hlength : text.length ≤ options.limits.maxDocumentBytes.toNat)
      (hout : ¬ RunsOut options text) {b : Block}
      (hdeep : IsFirstDeeper options.limits.maxFenceIndent.toNat (scanLines text) b) :
      Answers options text
        (.error (.indentTooLarge ⟨b.indent, options.limits.maxFenceIndent.toNat⟩))
  | done (hlength : text.length ≤ options.limits.maxDocumentBytes.toNat)
      (hout : ¬ RunsOut options text)
      (hindent : ∀ b ∈ scanLines text, b.indent ≤ options.limits.maxFenceIndent.toNat) :
      Answers options text (.ok (formatted options.policy text (scanLines text)))

theorem answers_format (options : Options) (text : Bytes) :
    Answers options text (format options text) := by
  rw [format_eq]
  split
  · rename_i hlarge
    exact .tooLarge hlarge
  · rename_i hlength
    rw [Nat.not_lt] at hlength
    split
    · rename_i e hscan
      exact .passedThrough hlength (runsOut_iff.2 ⟨e, hscan⟩)
    · rename_i blocks hscan
      have hout : ¬ RunsOut options text := by
        rw [runsOut_iff]
        rintro ⟨e, herror⟩
        rw [hscan] at herror
        cases herror
      split
      · rename_i b hdeep
        exact .tooDeep hlength hout (isFirstDeeper_iff.2 hdeep)
      · rename_i hdeep
        rw [tooDeep?_eq_none_iff, List.forall_mem_map] at hdeep
        exact .done hlength hout hdeep

/-- Every answer of a pass, with the documents and options for which it is given. -/
structure Determined (options : Options) (text : Bytes)
    (answer : Except FormatError Formatted) : Prop where
  tooLarge_iff : ∀ length max, answer = .error (.documentTooLarge length max) ↔
    options.limits.maxDocumentBytes.toNat < text.length ∧ length = text.length ∧
      max = options.limits.maxDocumentBytes.toNat
  passthrough_iff : ∀ f, answer = .ok f ∧ f.report.passthrough = true ↔
    text.length ≤ options.limits.maxDocumentBytes.toNat ∧ RunsOut options text ∧
      f = ⟨text, ⟨0, 0, 0, true⟩⟩
  tooDeep_iff : (∃ cause, answer = .error (.indentTooLarge cause)) ↔
    text.length ≤ options.limits.maxDocumentBytes.toNat ∧ ¬ RunsOut options text ∧
      ∃ b ∈ scanLines text, options.limits.maxFenceIndent.toNat < b.indent
  first_deeper : ∀ cause, answer = .error (.indentTooLarge cause) →
    ∃ b, IsFirstDeeper options.limits.maxFenceIndent.toNat (scanLines text) b ∧
      cause = ⟨b.indent, options.limits.maxFenceIndent.toNat⟩
  done_iff : (∃ f, answer = .ok f ∧ f.report.passthrough = false) ↔
    text.length ≤ options.limits.maxDocumentBytes.toNat ∧ ¬ RunsOut options text ∧
      ∀ b ∈ scanLines text, b.indent ≤ options.limits.maxFenceIndent.toNat
  ne_scanFailed : ∀ cause, answer ≠ .error (.scanFailed cause)
  ne_misplaced : ∀ cause, answer ≠ .error (.misplaced cause)

namespace Answers

variable {answer : Except FormatError Formatted}

theorem tooLarge_iff (h : Answers options text answer) {length max : Nat} :
    answer = .error (.documentTooLarge length max) ↔
      options.limits.maxDocumentBytes.toNat < text.length ∧ length = text.length ∧
        max = options.limits.maxDocumentBytes.toNat := by
  constructor
  · rintro rfl
    cases h with
    | tooLarge hlarge => exact ⟨hlarge, rfl, rfl⟩
  · rintro ⟨hlarge, rfl, rfl⟩
    cases h with
    | tooLarge _ => rfl
    | passedThrough hlength | tooDeep hlength | done hlength =>
        exact absurd hlarge (Nat.not_lt.2 hlength)

theorem passthrough_iff (h : Answers options text answer) {f : Formatted} :
    answer = .ok f ∧ f.report.passthrough = true ↔
      text.length ≤ options.limits.maxDocumentBytes.toNat ∧ RunsOut options text ∧
        f = ⟨text, ⟨0, 0, 0, true⟩⟩ := by
  constructor
  · rintro ⟨rfl, hpass⟩
    cases h with
    | passedThrough hlength hout => exact ⟨hlength, hout, rfl⟩
    | done => cases hpass
  · rintro ⟨hlength, hout, rfl⟩
    cases h with
    | tooLarge hlarge => exact absurd hlength (Nat.not_le.2 hlarge)
    | passedThrough => exact ⟨rfl, rfl⟩
    | tooDeep _ hnot | done _ hnot => exact absurd hout hnot

/-- Refusing a fence names the first of those that are too deep. -/
theorem tooDeep_iff (h : Answers options text answer) {cause : IndentTooLarge} :
    answer = .error (.indentTooLarge cause) ↔
      text.length ≤ options.limits.maxDocumentBytes.toNat ∧ ¬ RunsOut options text ∧
        ∃ b, IsFirstDeeper options.limits.maxFenceIndent.toNat (scanLines text) b ∧
          cause = ⟨b.indent, options.limits.maxFenceIndent.toNat⟩ := by
  constructor
  · rintro rfl
    cases h with
    | tooDeep hlength hout hdeep => exact ⟨hlength, hout, _, hdeep, rfl⟩
  · rintro ⟨hlength, hout, b, hb, rfl⟩
    cases h with
    | tooLarge hlarge => exact absurd hlength (Nat.not_le.2 hlarge)
    | passedThrough _ hrun => exact absurd hrun hout
    | tooDeep _ _ hdeep => rw [hdeep.unique hb]
    | done _ _ hindent => exact absurd (hindent b hb.mem) (Nat.not_le.2 hb.lt)

theorem done_iff (h : Answers options text answer) :
    (∃ f, answer = .ok f ∧ f.report.passthrough = false) ↔
      text.length ≤ options.limits.maxDocumentBytes.toNat ∧ ¬ RunsOut options text ∧
        ∀ b ∈ scanLines text, b.indent ≤ options.limits.maxFenceIndent.toNat := by
  constructor
  · rintro ⟨f, rfl, hpass⟩
    cases h with
    | passedThrough => cases hpass
    | done hlength hout hindent => exact ⟨hlength, hout, hindent⟩
  · rintro ⟨hlength, hout, hindent⟩
    cases h with
    | tooLarge hlarge => exact absurd hlength (Nat.not_le.2 hlarge)
    | passedThrough _ hrun => exact absurd hrun hout
    | tooDeep _ _ hdeep => exact absurd (hindent _ hdeep.mem) (Nat.not_le.2 hdeep.lt)
    | done => exact ⟨_, rfl, rfl⟩

end Answers

/-- The answer of a pass is determined by its conditions, and two errors never come up:
that of a scan that gave up, and that of blocks that are not well placed. -/
theorem format_determined (options : Options) (text : Bytes) :
    Determined options text (format options text) := by
  have h := answers_format options text
  constructor
  · exact fun length max => h.tooLarge_iff
  · exact fun f => h.passthrough_iff
  · constructor
    · rintro ⟨cause, hcause⟩
      obtain ⟨hlength, hout, b, hb, _⟩ := h.tooDeep_iff.1 hcause
      exact ⟨hlength, hout, b, hb.mem, hb.lt⟩
    · rintro ⟨hlength, hout, hdeep⟩
      obtain ⟨b, hb⟩ := exists_isFirstDeeper hdeep
      exact ⟨_, h.tooDeep_iff.2 ⟨hlength, hout, b, hb, rfl⟩⟩
  · exact fun cause hcause => (h.tooDeep_iff.1 hcause).2.2
  · exact h.done_iff
  · intro cause hcause
    rw [hcause] at h
    cases h
  · intro cause hcause
    rw [hcause] at h
    cases h

end FencedDiff
