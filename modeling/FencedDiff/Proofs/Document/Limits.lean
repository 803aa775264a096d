import FencedDiff.Proofs.Document.Answer

/-!
# Limits gate a pass

The limits of a pass decide whether it is done, and nothing else. Under wider limits
(`Limits.Within`) a pass that was done is done again, with the same answer
(`format_of_within`).

The one limit that is asked again and again is the budget of the backtracking scanner, at
each byte that it reads. A scan within its limit goes through the same steps under a
greater one, since the number of its steps is charged to the text alone.
-/

namespace FencedDiff

open Bytes

/-- The second limits grant at least what the first do. -/
structure Limits.Within (limits wider : Limits) : Prop where
  document_le : limits.maxDocumentBytes ≤ wider.maxDocumentBytes
  indent_le : limits.maxFenceIndent ≤ wider.maxFenceIndent
  budget_le : limits.scanBudgetFactor ≤ wider.scanBudgetFactor

/-- A saturated budget stays saturated, so budgets keep the order of their factors. -/
theorem Limits.Within.scanBudget_le {limits wider : Limits} (h : limits.Within wider)
    (length : Nat) : limits.scanBudget length ≤ wider.scanBudget length := by
  have hfactor : limits.scanBudgetFactor.toNat ≤ wider.scanBudgetFactor.toNat :=
    UInt64.le_iff_toNat_le.1 h.budget_le
  exact Nat.le_min.2 ⟨Nat.le_trans (Nat.min_le_left ..) (Nat.mul_le_mul_right _ hfactor),
    Nat.min_le_right ..⟩

/-- A scan that does not give up is the same under every greater limit. -/
theorem scanBacktracking_of_le {text : Bytes} {limit greater : Nat} {blocks : List Block}
    (h : scanBacktracking text limit = .ok blocks) (hle : limit ≤ greater) :
    scanBacktracking text greater = .ok blocks := by
  rw [scanBacktracking_eq_charge, Backtracking.charge] at h ⊢
  split at h
  · rename_i hsteps
    rw [if_pos (Nat.le_trans hsteps hle)]
    exact h
  · cases h

section Wider

variable {options wider : Options} {text : Bytes}

theorem scan_of_within (hscanner : wider.scanner = options.scanner)
    (hlimits : options.limits.Within wider.limits) {blocks : List Block}
    (h : scan options text = .ok blocks) : scan wider text = .ok blocks := by
  unfold scan at h ⊢
  rw [hscanner]
  cases hkind : options.scanner with
  | lines =>
      rw [hkind] at h
      exact h
  | backtracking =>
      rw [hkind] at h
      exact scanBacktracking_of_le h (hlimits.scanBudget_le text.length)

theorem not_runsOut_of_within (hscanner : wider.scanner = options.scanner)
    (hlimits : options.limits.Within wider.limits) (h : ¬ RunsOut options text) :
    ¬ RunsOut wider text := by
  rw [← scan_eq_ok_iff] at h ⊢
  exact scan_of_within hscanner hlimits h

/-- Limits only gate: a pass that is done under some limits is done under wider ones, and
answers the same document with the same report. -/
theorem format_of_within {f : Formatted} (h : format options text = .ok f)
    (hpass : f.report.passthrough = false) (hpolicy : wider.policy = options.policy)
    (hscanner : wider.scanner = options.scanner)
    (hlimits : options.limits.Within wider.limits) : format wider text = .ok f := by
  have hanswer := answers_format options text
  rw [h] at hanswer
  cases hanswer with
  | passedThrough => cases hpass
  | done hlength hout hindent =>
      have hlength' := Nat.le_trans hlength (UInt64.le_iff_toNat_le.1 hlimits.document_le)
      have hindent' : tooDeep? wider (scanLines text) = none := by
        rw [tooDeep?_eq_none_iff, List.forall_mem_map]
        intro b hb
        exact Nat.le_trans (hindent b hb) (UInt64.le_iff_toNat_le.1 hlimits.indent_le)
      have hscan := scan_eq_ok_iff.2 (not_runsOut_of_within hscanner hlimits hout)
      rw [format_eq, if_neg (Nat.not_lt.2 hlength'), hscan, hindent', hpolicy]

end Wider

/-- An added line behind an indented fence, with an opening fence behind the block that is
never closed. -/
def addedThenUnclosed : Bytes :=
  space :: ticks ++ tag ++ [newline, plus, 0x61, newline] ++ ticks ++ [newline] ++ ticks ++ tag ++
    [newline]

def addedThenUnclosedFormatted : Bytes :=
  space :: ticks ++ tag ++ [newline, space, plus, 0x61, newline] ++ ticks ++ [newline] ++ ticks ++
    tag ++ [newline]

/-- Limits that the text only just keeps. -/
def tightLimits : Limits where
  maxDocumentBytes := 24
  maxFenceIndent := 1
  scanBudgetFactor := 2

theorem format_of_within_addedThenUnclosed :
    format { scanner := .backtracking, limits := tightLimits } addedThenUnclosed =
        .ok ⟨addedThenUnclosedFormatted, ⟨1, 1, 1, false⟩⟩ ∧
      tightLimits.Within {} ∧
      format { scanner := .backtracking } addedThenUnclosed =
        .ok ⟨addedThenUnclosedFormatted, ⟨1, 1, 1, false⟩⟩ := by
  have h : format { scanner := .backtracking, limits := tightLimits } addedThenUnclosed =
      .ok ⟨addedThenUnclosedFormatted, ⟨1, 1, 1, false⟩⟩ := by
    decide +kernel
  have hwithin : tightLimits.Within {} := ⟨by decide, by decide, by decide⟩
  exact ⟨h, hwithin, format_of_within h rfl rfl rfl hwithin⟩

end FencedDiff
