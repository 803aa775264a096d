import FencedDiff.Proofs.Text.Boundary

/-!
# Texts in UTF-8

`IsText` says that bytes are a row of encoded characters, without saying which. These are
the bytes that can be decoded (`exists_decode_iff`). A byte of ASCII is a character of its
own wherever it stands, so a text may be cut at each of them (`isText_append_cons_iff`),
and its lines are texts (`IsCut.isText_flatten_iff`).
-/

namespace FencedDiff

open Bytes

namespace Utf8

/-- Encoded characters, one behind the other. -/
inductive IsText : Bytes → Prop
  | nil : IsText []
  | char {b : UInt8} {l : Lead} {rest after : Bytes} {code : Nat} (hlead : lead? b = some l)
      (htails : readTails l.low l.high 1 l.bits l.tails rest = .ok (code, after))
      (hafter : IsText after) : IsText (b :: rest)

theorem exists_decodeFrom_iff {index : Nat} {done : List Char} {s : Bytes} :
    (∃ chars, decodeFrom index done s = .ok chars) ↔ IsText s := by
  fun_induction decodeFrom index done s with
  | case1 => exact ⟨fun _ => .nil, fun _ => ⟨_, rfl⟩⟩
  | case2 index done b rest hlead =>
      constructor
      · rintro ⟨_, h⟩
        cases h
      · intro h
        cases h with
        | char hlead' => rw [hlead] at hlead'; cases hlead'
  | case3 index done b rest l hlead fault htails =>
      constructor
      · rintro ⟨_, h⟩
        cases h
      · intro h
        cases h with
        | char hlead' htails' =>
            cases hlead.symm.trans hlead'
            rw [htails] at htails'
            cases htails'
  | case4 index done b rest l hlead code after htails ih =>
      rw [ih]
      constructor
      · exact .char hlead htails
      · intro h
        cases h with
        | char hlead' htails' hafter =>
            cases hlead.symm.trans hlead'
            cases htails.symm.trans htails'
            exact hafter

theorem exists_decode_iff {s : Bytes} : (∃ chars, decode s = .ok chars) ↔ IsText s :=
  exists_decodeFrom_iff

theorem lead?_of_ascii {b : UInt8} (hb : b < 0x80) : lead? b = some ⟨0, 0x80, 0xBF, b.toNat⟩ :=
  if_pos hb

section Tails

variable {low high : UInt8} {seen code n c : Nat} {s r : Bytes}

theorem readTails_append (h : readTails low high seen code n s = .ok (c, r)) (t : Bytes) :
    readTails low high seen code n (s ++ t) = .ok (c, r ++ t) := by
  induction n generalizing low high seen code s with
  | zero =>
      cases h
      rfl
  | succ n ih =>
      cases s with
      | nil => cases h
      | cons b s =>
          rw [readTails] at h
          rw [List.cons_append, readTails]
          split at h
          · rename_i hb
            rw [if_pos hb]
            exact ih h
          · cases h

/-- What is read as continuation bytes ends before the first byte of ASCII. -/
theorem exists_of_readTails_append_cons {b : UInt8} (hb : b < 0x80) (hlow : 0x80 ≤ low) {t : Bytes}
    (h : readTails low high seen code n (s ++ b :: t) = .ok (c, r)) :
    ∃ r', r = r' ++ b :: t ∧ readTails low high seen code n s = .ok (c, r') := by
  induction n generalizing low high seen code s with
  | zero =>
      cases h
      exact ⟨s, rfl, rfl⟩
  | succ n ih =>
      cases s with
      | nil =>
          have hout : ¬ low ≤ b := UInt8.not_le.2 (UInt8.lt_of_lt_of_le hb hlow)
          rw [List.nil_append, readTails, if_neg (by simp [hout])] at h
          cases h
      | cons d s =>
          rw [List.cons_append, readTails] at h
          rw [readTails]
          split at h
          · rename_i hd
            rw [if_pos hd]
            exact ih (UInt8.le_refl _) h
          · cases h

end Tails

variable {a s : Bytes} {b : UInt8}

theorem IsText.append (ha : IsText a) (hs : IsText s) : IsText (a ++ s) := by
  induction ha with
  | nil => exact hs
  | char hlead htails hafter ih => exact .char hlead (readTails_append htails s) ih

theorem isText_cons_iff (hb : b < 0x80) : IsText (b :: s) ↔ IsText s := by
  constructor
  · intro h
    cases h with
    | char hlead htails hafter =>
        cases (lead?_of_ascii hb).symm.trans hlead
        cases htails
        exact hafter
  · exact .char (lead?_of_ascii hb) rfl

theorem IsText.of_append_cons (hb : b < 0x80) (h : IsText (a ++ b :: s)) :
    IsText a ∧ IsText s := by
  generalize htext : a ++ b :: s = text at h
  induction h generalizing a with
  | nil => simp at htext
  | @char c l rest after code hlead htails hafter ih =>
      cases a with
      | nil =>
          obtain ⟨rfl, rfl⟩ := List.cons.inj htext
          exact ⟨.nil, (isText_cons_iff hb).1 (.char hlead htails hafter)⟩
      | cons d a =>
          obtain ⟨rfl, rfl⟩ := List.cons.inj htext
          obtain ⟨r, rfl, hread⟩ :=
            exists_of_readTails_append_cons hb (isContinuation_of_lead? hlead).2 htails
          obtain ⟨hr, hs⟩ := ih rfl
          exact ⟨.char hlead hread hr, hs⟩

/-- A text may be cut at every byte of ASCII. -/
theorem isText_append_cons_iff (hb : b < 0x80) :
    IsText (a ++ b :: s) ↔ IsText a ∧ IsText s := by
  constructor
  · exact IsText.of_append_cons hb
  · rintro ⟨ha, hs⟩
    exact ha.append ((isText_cons_iff hb).2 hs)

theorem isText_append_iff_of_ascii {e : Bytes} (he : ∀ b ∈ e, b < 0x80) :
    IsText (s ++ e) ↔ IsText s := by
  induction e generalizing s with
  | nil => rw [List.append_nil]
  | cons b e ih =>
      rw [List.forall_mem_cons] at he
      have hnil := ih (s := []) he.2
      rw [isText_append_cons_iff he.1]
      rw [List.nil_append] at hnil
      exact and_iff_left (hnil.2 .nil)

theorem isText_spaces_append_iff (n : Nat) : IsText (spaces n ++ s) ↔ IsText s := by
  induction n with
  | zero => rw [spaces_zero, List.nil_append]
  | succ n ih => rw [spaces_succ, List.cons_append, isText_cons_iff (by decide), ih]

end Utf8

open Utf8

theorem IsCut.isText_flatten_iff {lines : List Bytes} (h : IsCut lines) :
    IsText lines.flatten ↔ ∀ l ∈ lines, IsText l := by
  induction h with
  | nil => simp [IsText.nil]
  | last h hne => simp
  | @cons line rest hline hrest ih =>
      obtain ⟨body, _, rfl⟩ := hline
      have hnewline : newline < 0x80 := by decide
      rw [List.flatten_cons, List.append_assoc, List.singleton_append,
        isText_append_cons_iff hnewline, ih, List.forall_mem_cons,
        isText_append_cons_iff hnewline, and_iff_left IsText.nil]

end FencedDiff
