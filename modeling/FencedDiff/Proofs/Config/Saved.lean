import FencedDiff.Config.File
import FencedDiff.Proofs.Files.Tree
import FencedDiff.Proofs.Text.Decoding
import FencedDiff.Proofs.Toml.Plain
import Mathlib.Data.List.Nodup

/-!
# Saved configurations

What is saved is a plain document with one line for each field, in which the names are those
of the alternatives and the limits stand in decimal. So it is read as the table of its
lines, and the table gives the options, although its fields are read in another order than
they are written in: the keys are different, and then the order makes no difference
(`ofTable_eq_of_perm`). Nothing is asked of the options here. That comes last, and only when
they are loaded, so whatever is saved can be parsed, and options are refused for a zero
(`load_save`).
-/

namespace FencedDiff

theorem FileTree.read_plant {t t' : FileTree} {path : String} {content : Bytes}
    (h : t.plant path content = (t', .ok ())) : t'.read path = .ok content := by
  rw [plant] at h
  split at h
  · cases (Prod.mk.inj h).2
  · rename_i made _ _
    split at h
    · rename_i written hwrite
      rw [← (Prod.mk.inj h).1]
      exact read_write hwrite
    · cases (Prod.mk.inj h).2

namespace Config

open Toml

/-! ### Fields in any order -/

theorem pairwise_sorted (t : Table) :
    (t.mergeSort fun a b => a.1 ≤ b.1).Pairwise fun a b => a.1 ≤ b.1 := by
  have htrans : ∀ a b c : String × Value, decide (a.1 ≤ b.1) = true →
      decide (b.1 ≤ c.1) = true → decide (a.1 ≤ c.1) = true := by
    intro a b c hab hbc
    exact decide_eq_true (String.le_trans (of_decide_eq_true hab) (of_decide_eq_true hbc))
  have htotal : ∀ a b : String × Value, (decide (a.1 ≤ b.1) || decide (b.1 ≤ a.1)) = true := by
    intro a b
    simpa using String.le_total a.1 b.1
  simpa using List.pairwise_mergeSort htrans htotal t

/-- What a table gives does not hang on the order of its fields. -/
theorem ofTable_eq_of_perm {t t' : Table} (h : t.Perm t') (hkeys : (t.map Prod.fst).Nodup) :
    ofTable t = ofTable t' := by
  have hsorted : (t.mergeSort fun a b => a.1 ≤ b.1) = t'.mergeSort fun a b => a.1 ≤ b.1 := by
    refine List.Perm.eq_of_pairwise ?_ (pairwise_sorted t) (pairwise_sorted t') ?_
    · intro a b ha hb hab hba
      rw [List.mem_mergeSort] at ha hb
      exact List.inj_on_of_nodup_map hkeys ha (h.mem_iff.2 hb) (String.le_antisymm hab hba)
    · exact (List.mergeSort_perm _ _).trans (h.trans (List.mergeSort_perm _ _).symm)
  rw [ofTable, ofTable, hsorted]

theorem ofTable_of_pairwise {t : Table} (h : t.Pairwise fun a b => a.1 ≤ b.1) :
    ofTable t = t.foldlM setField {} := by
  rw [ofTable, List.mergeSort_of_pairwise]
  simpa using h

/-! ### Options as lines -/

theorem isBareKey_of_mem_fieldNames {name : String} (h : name ∈ fieldNames) :
    IsBareKey name.toList := by
  simp only [fieldNames, List.mem_cons, List.not_mem_nil, or_false] at h
  rcases h with rfl | rfl | rfl | rfl | rfl <;> simp [IsBareKey, isBareKeyChar]

theorem isPlainWord_policy (p : Policy) : IsPlainWord p.name.toList := by
  cases p <;> simp [Policy.name, IsPlainWord, isForbidden]

theorem isPlainWord_scanner (k : ScannerKind) : IsPlainWord k.name.toList := by
  cases k <;> simp [ScannerKind.name, IsPlainWord, isForbidden]

/-- The lines in which options are saved. -/
def savedLines (options : Options) : List PlainLine :=
  [⟨"policy", .word options.policy.name (isPlainWord_policy _),
      isBareKey_of_mem_fieldNames (by decide)⟩,
    ⟨"scanner", .word options.scanner.name (isPlainWord_scanner _),
      isBareKey_of_mem_fieldNames (by decide)⟩,
    ⟨"max_document_bytes", .count options.limits.maxDocumentBytes.toNat,
      isBareKey_of_mem_fieldNames (by decide)⟩,
    ⟨"max_fence_indent", .count options.limits.maxFenceIndent.toNat,
      isBareKey_of_mem_fieldNames (by decide)⟩,
    ⟨"scan_budget_factor", .count options.limits.scanBudgetFactor.toNat,
      isBareKey_of_mem_fieldNames (by decide)⟩]

theorem nodup_fieldNames : fieldNames.Nodup := by
  decide

theorem toList_render (options : Options) :
    (render options).toList = plainText (savedLines options) := by
  unfold render
  simp only [String.toList_append, Nat.toString_eq_repr, Nat.toList_repr]
  simp [plainText, savedLines, PlainLine.written, PlainValue.written]

theorem count?_toNat (w : UInt64) : count? (.integer w.toNat) = .ok w := by
  have hle : (w.toNat : Int) ≤ max64 := by
    have hlt := w.toNat_lt
    unfold max64
    omega
  have hwide : ¬ (w.toNat : Int) < -maxSigned128 - 1 := by
    unfold maxSigned128
    omega
  have hnarrow : ¬ (w.toNat : Int) < -maxSigned64 - 1 := by
    unfold maxSigned64
    omega
  have hnegative : ¬ (w.toNat : Int) < 0 := by
    omega
  rw [count?, if_neg hwide, if_neg hnarrow, if_neg hnegative, if_pos hle]
  simp

theorem ofTable_savedLines (options : Options) :
    ofTable ((savedLines options).map PlainLine.entry) = .ok options := by
  have hkeys : (((savedLines options).map PlainLine.entry).map Prod.fst).Nodup := nodup_fieldNames
  -- From the order in which the fields are written to that of their names.
  have hmove : ∀ p s d i b : String × Value, [p, s, d, i, b].Perm [d, i, p, b, s] := by
    intro p s d i b
    have hfront := (@List.perm_append_comm _ [p, s] [d, i]).append_right [b]
    exact hfront.trans ((List.Perm.swap b s []).append_left [d, i, p])
  refine (ofTable_eq_of_perm (hmove _ _ _ _ _) hkeys).trans ?_
  rw [ofTable_of_pairwise]
  · simp [PlainLine.entry, PlainValue.value, setField, choice?, count?_toNat, Except.map, bind,
      Except.bind, pure, Except.pure]
  · simp [PlainLine.entry]

/-- What was saved is read as the options, and only then are they checked. -/
theorem parse_render (path : String) (options : Options) :
    parse path (Utf8.encode (render options)) =
      (zeroField? options).elim (.ok options) fun field => .error (.zero path field) := by
  have hkeys : ((savedLines options).map PlainLine.key).Nodup := nodup_fieldNames
  have htable := parse_plainText hkeys
  simp only [parse, Utf8.decode_encode, toList_render, htable, ofTable_savedLines]
  cases zeroField? options <;> rfl

/-! ### Saving and loading -/

/-- What loading answers to options that have been saved at a path. -/
structure LoadsBack (path : String) (options : Options)
    (answer : Except ConfigError (Option Options)) : Prop where
  whole : 1 ≤ options.limits.scanBudgetFactor → 1 ≤ options.limits.maxDocumentBytes →
    answer = .ok (some options)
  zeroBudget : options.limits.scanBudgetFactor = 0 →
    answer = .error (.zero path "scan_budget_factor")
  zeroDocument : 1 ≤ options.limits.scanBudgetFactor → options.limits.maxDocumentBytes = 0 →
    answer = .error (.zero path "max_document_bytes")
  ne_unparsable : ∀ place cause, answer ≠ .error (.unparsable place cause)
  ne_unreadable : ∀ place cause, answer ≠ .error (.unreadable place cause)

theorem ne_zero_of_one_le {w : UInt64} (h : 1 ≤ w) : w ≠ 0 := by
  rintro rfl
  exact absurd h (by decide)

theorem loadsBack_parse (path : String) (options : Options) :
    LoadsBack path options ((parse path (Utf8.encode (render options))).map some) := by
  rw [parse_render, zeroField?]
  by_cases hbudget : options.limits.scanBudgetFactor = 0
  · rw [if_pos hbudget]
    refine ⟨fun h => absurd hbudget (ne_zero_of_one_le h), fun _ => rfl,
      fun h => absurd hbudget (ne_zero_of_one_le h), ?_, ?_⟩ <;> rintro place cause ⟨⟩
  · rw [if_neg hbudget]
    by_cases hdocument : options.limits.maxDocumentBytes = 0
    · rw [if_pos hdocument]
      refine ⟨fun _ h => absurd hdocument (ne_zero_of_one_le h), fun h => absurd h hbudget,
        fun _ _ => rfl, ?_, ?_⟩ <;> rintro place cause ⟨⟩
    · rw [if_neg hdocument]
      refine ⟨fun _ _ => rfl, fun h => absurd h hbudget, fun _ h => absurd h hdocument, ?_, ?_⟩ <;>
        rintro place cause ⟨⟩

theorem load_of_read {files : FileTree} {path : String} {content : Bytes}
    (h : files.read path = .ok content) :
    load files path = (parse path content).map some := by
  have hthere : files.isThere path = true := by
    rw [FileTree.isThere, FileTree.lookup_eq_file_iff.2 (FileTree.read_eq_ok_iff.1 h)]
    rfl
  rw [load, if_pos hthere, h]
  rfl

/-- Options that have been saved at a path are loaded from there, unless a limit that has to be
positive is zero. -/
theorem load_save {files saved : FileTree} {path : String} {options : Options}
    (h : save files path options = (saved, .ok ())) : LoadsBack path options (load saved path) := by
  rw [load_of_read (FileTree.read_plant h)]
  exact loadsBack_parse path options

/-- The greatest limits but for the indent, which may well be zero. -/
def farOptions : Options where
  policy := .baseline
  scanner := .backtracking
  limits := ⟨18446744073709551615, 0, 18446744073709551615⟩

theorem save_farOptions : (save {} "d/c" farOptions).2 = .ok () := by
  decide +kernel

theorem load_save_farOptions :
    LoadsBack "d/c" farOptions (load (save {} "d/c" farOptions).1 "d/c") :=
  load_save (Prod.ext rfl save_farOptions)

end Config

end FencedDiff
