import FencedDiff.Proofs.Body.Realign

/-!
# Code that moves right

Where all code of a body moves, every code line gets the same number of spaces in front, and
headers and blank lines stay (`ShiftsLine`). How far is decided by the least indented code
line: if it is `m` deep and the fence is `n` deep, the code moves by what `m` is short of
`n`. It is then `max n m` deep, and no smaller shift brings all code to the fence
(`ShiftsCode`).

Moving code right translates the set of its indents (`codeIndents_map_shift`), and so the
least of them.
-/

namespace FencedDiff

open Bytes

/-- The second line is the first, moved right by `pad` if it is code. -/
structure ShiftsLine (pad : Nat) (old new : BodyLine) : Prop where
  ending_eq : new.ending = old.ending
  content_eq : old.isCode = false → new.content = old.content
  shifted : old.isCode = true → new.content = spaces pad ++ old.content
  leadingSpaces_eq : old.isCode = true →
    leadingSpaces new.content = leadingSpaces old.content + pad
  leadingSpaces_le : leadingSpaces old.content ≤ leadingSpaces new.content
  header_iff : new.kind = .header ↔ old.kind = .header
  blank_iff : new.kind = .blank ↔ old.kind = .blank
  isCode_eq : new.isCode = old.isCode

/-- The second body is the first with its code, the least indented of which is `m` deep, moved
right as little as brings all of it to a fence at `n` or deeper. -/
structure ShiftsCode (n m : Nat) (old new : List BodyLine) : Prop where
  lines : List.Forall₂ (ShiftsLine (n - m)) old new
  distance_eq : ∀ p ∈ old.zip new, ∀ q ∈ old.zip new, p.1.isCode = true → q.1.isCode = true →
    (leadingSpaces p.2.content : Int) - leadingSpaces q.2.content =
      leadingSpaces p.1.content - leadingSpaces q.1.content
  isLeast : IsLeast (codeIndents new) (max n m)
  isLeast_pad : IsLeast
    {pad | ∀ l ∈ old, l.isCode = true → n ≤ leadingSpaces (spaces pad ++ l.content)} (n - m)

namespace BodyLine

theorem shift_of_not_isCode {l : BodyLine} (h : l.isCode = false) (pad : Nat) :
    l.shift pad = l := by
  rw [shift, shifted_of_not_isCode h]

theorem shifted_of_isCode {l : BodyLine} (h : l.isCode = true) (pad : Nat) :
    l.shifted pad = spaces pad ++ l.content := by
  rw [shifted, if_pos h]

theorem shift_shift (pad pad' : Nat) (l : BodyLine) :
    (l.shift pad).shift pad' = l.shift (pad + pad') := by
  cases h : l.isCode with
  | false =>
      rw [shift_of_not_isCode h, shift_of_not_isCode h, shift_of_not_isCode h]
  | true =>
      have h' : (l.shift pad).isCode = true := by rw [isCode_shift, h]
      rw [shift, shifted_of_isCode h', shift, shift, shifted_of_isCode h, shifted_of_isCode h,
        ← List.append_assoc, spaces_append, Nat.add_comm pad']

/-- Code is neither a header nor blank. -/
theorem kind_ne_of_isCode {l : BodyLine} (h : l.isCode = true) :
    l.kind ≠ .header ∧ l.kind ≠ .blank := by
  rw [isCode] at h
  cases hkind : l.kind with
  | header | blank =>
      rw [hkind] at h
      cases h
  | changed | context => decide

theorem shiftsLine_shift (pad : Nat) (l : BodyLine) : ShiftsLine pad l (l.shift pad) := by
  cases h : l.isCode with
  | false =>
      have hcode : l.isCode ≠ true := by simp [h]
      rw [shift_of_not_isCode h]
      exact ⟨rfl, fun _ => rfl, fun h' => absurd h' hcode, fun h' => absurd h' hcode,
        Nat.le_refl _, Iff.rfl, Iff.rfl, rfl⟩
  | true =>
      have hindent := leadingSpaces_shifted h pad
      have hcode : (l.shift pad).isCode = true := by rw [isCode_shift, h]
      refine ⟨rfl, fun h' => absurd h (by simp [h']), fun _ => shifted_of_isCode h pad,
        fun _ => hindent.trans (Nat.add_comm ..), ?_, ?_, ?_, hcode.trans h.symm⟩
      · exact hindent ▸ Nat.le_add_left ..
      · exact iff_of_false (kind_ne_of_isCode hcode).1 (kind_ne_of_isCode h).1
      · exact iff_of_false (kind_ne_of_isCode hcode).2 (kind_ne_of_isCode h).2

end BodyLine

section Indents

variable {n m pad : Nat} {lines : List BodyLine}

theorem map_shift_of_not_isCode (h : ∀ l ∈ lines, l.isCode = false) :
    lines.map (BodyLine.shift pad) = lines := by
  conv_rhs => rw [← List.map_id lines]
  exact List.map_congr_left fun l hl => BodyLine.shift_of_not_isCode (h l hl) pad

/-- No shift by less than what the least indented line is short of the fence will do. -/
theorem isLeast_pad (h : IsLeast (codeIndents lines) m) (n : Nat) : IsLeast
    {pad | ∀ l ∈ lines, l.isCode = true → n ≤ leadingSpaces (spaces pad ++ l.content)} (n - m) := by
  constructor
  · intro l hl hcode
    have hm : m ≤ leadingSpaces l.content := h.2 ⟨l, hl, hcode, rfl⟩
    rw [leadingSpaces_spaces_append]
    omega
  · intro pad hpad
    obtain ⟨l, hl, hcode, rfl⟩ := h.1
    have hn := hpad l hl hcode
    rw [leadingSpaces_spaces_append] at hn
    omega

/-- Lines that are shifted alike keep their distances. -/
theorem distance_eq_of_shiftsLine {new : List BodyLine}
    (h : List.Forall₂ (ShiftsLine pad) lines new) : ∀ p ∈ lines.zip new, ∀ q ∈ lines.zip new,
    p.1.isCode = true → q.1.isCode = true →
      (leadingSpaces p.2.content : Int) - leadingSpaces q.2.content =
        leadingSpaces p.1.content - leadingSpaces q.1.content := by
  intro p hp q hq hpcode hqcode
  have hpindent := ((List.forall₂_iff_zip.1 h).2 hp).leadingSpaces_eq hpcode
  have hqindent := ((List.forall₂_iff_zip.1 h).2 hq).leadingSpaces_eq hqcode
  omega

theorem shiftsCode_map_shift (h : IsLeast (codeIndents lines) m) (n : Nat) :
    ShiftsCode n m lines (lines.map (BodyLine.shift (n - m))) := by
  have hlines : List.Forall₂ (ShiftsLine (n - m)) lines
      (lines.map (BodyLine.shift (n - m))) := by
    rw [List.forall₂_map_right_iff, List.forall₂_same]
    exact fun l _ => l.shiftsLine_shift _
  have hmax : n - m + m = max n m := by omega
  exact ⟨hlines, distance_eq_of_shiftsLine hlines, hmax ▸ isLeast_codeIndents_shift h _,
    isLeast_pad h n⟩

end Indents

section Body

variable (n : Nat) (body : Bytes)

theorem bodyLines_shiftCode : bodyLines (shiftCode n body).text =
    (bodyLines body).map (BodyLine.shift (n - codeIndent (bodyLines body))) :=
  Policy.bodyLines_realign .baseline n body

/-- A body without code stays as it is. -/
theorem shiftCode_of_not_isCode (h : ∀ l ∈ bodyLines body, l.isCode = false) :
    (shiftCode n body).text = body := by
  rw [← bodyLines_inj, bodyLines_shiftCode, map_shift_of_not_isCode h]

end Body

/-- Where all code moves, it moves right by one and the same shift, the least that brings all
of it to the fence. A body without code comes back as it is. The lines counted as changed are
those whose content differs. -/
theorem realignBody_shifts_code {options : Options} (hpolicy : options.policy = .baseline)
    {n : Nat} (hn : n ≤ options.limits.maxFenceIndent.toNat) (body : Bytes) :
    ∃ r, realignBody options n body = .ok r ∧
      ((∃ l ∈ bodyLines body, l.isCode = true) → ∃ m, IsLeast (codeIndents (bodyLines body)) m ∧
        ShiftsCode n m (bodyLines body) (bodyLines r.text)) ∧
      ((∀ l ∈ bodyLines body, l.isCode = false) → r.text = body) ∧
      r.changedLines = differences ((bodyLines body).map BodyLine.content)
        ((bodyLines r.text).map BodyLine.content) := by
  refine ⟨shiftCode n body, ?_, fun hcode => ?_, shiftCode_of_not_isCode n body,
    Policy.changedLines_eq_differences_content .baseline n body⟩
  · rw [realignBody_of_le hn, hpolicy]
    rfl
  · have hleast := isLeast_codeIndent hcode
    rw [bodyLines_shiftCode]
    exact ⟨_, hleast, shiftsCode_map_shift hleast n⟩

/-- A body whose code is of different depths, one line behind a tab, with a header and a
blank line between, a carriage return, and no newline at the end. -/
def unevenCode : Bytes :=
  [0x40, 0x40, newline] ++ spaces 3 ++ [plus, 0x61, carriageReturn, newline] ++ spaces 2 ++
    [newline, space, tab, 0x62, newline] ++ spaces 2 ++ [minus, 0x63]

def unevenCodeShifted : Bytes :=
  [0x40, 0x40, newline] ++ spaces 5 ++ [plus, 0x61, carriageReturn, newline] ++ spaces 2 ++
    [newline] ++ spaces 3 ++ [tab, 0x62, newline] ++ spaces 4 ++ [minus, 0x63]

theorem realignBody_shifts_code_unevenCode :
    realignBody { policy := .baseline } 3 unevenCode = .ok ⟨unevenCodeShifted, 3⟩ ∧
      ShiftsCode 3 1 (bodyLines unevenCode) (bodyLines unevenCodeShifted) ∧
      3 = differences ((bodyLines unevenCode).map BodyLine.content)
        ((bodyLines unevenCodeShifted).map BodyLine.content) := by
  have hrealign : realignBody { policy := .baseline } 3 unevenCode =
      .ok ⟨unevenCodeShifted, 3⟩ := by decide
  have hcode : ∃ l ∈ bodyLines unevenCode, l.isCode = true := by decide
  have hindent : codeIndent (bodyLines unevenCode) = 1 := by decide
  obtain ⟨r, hr, hshifts, _, hdiff⟩ :=
    @realignBody_shifts_code { policy := .baseline } rfl 3 (by decide) unevenCode
  obtain ⟨m, hm, hshifts⟩ := hshifts hcode
  obtain rfl : m = 1 := (hm.unique (isLeast_codeIndent hcode)).trans hindent
  rw [hrealign] at hr
  cases hr
  exact ⟨hrealign, hshifts, hdiff⟩

end FencedDiff
