import FencedDiff.Body.Realign
import FencedDiff.Proofs.Body.Respace
import FencedDiff.Proofs.Text.Difference
import Mathlib.Order.Bounds.Image

/-!
# Realigned bodies

Both policies give each line of a body a new content, which depends on the line
and on the lines of the body (`Policy.content`), and put it in front of the old
ending (`Policy.realign_flatten`). The new content is the old one respaced, so
a realigned body is read back line by line.

A realigned body is settled: every line has the content that the policy would
give it. For the changed lines the reason is that a marker behind spaces is no
marker. For the baseline it is that the least indented code line has reached the
fence, so nothing is missing any more.
-/

namespace FencedDiff

open Bytes

namespace LineKind

/-- A space in front makes every line with something to see context. -/
theorem ofContent_spaces_succ_append (n : Nat) (s : Bytes) :
    ofContent (spaces (n + 1) ++ s) = if isBlank s then .blank else .context := by
  have hheader : isHeader (spaces (n + 1) ++ s) = false := by
    simp [isHeader, headerMarks, spaces_succ, List.isPrefixOf, space, minus, plus]
  have hmarked : isMarked (spaces (n + 1) ++ s) = false := by
    simp [isMarked, spaces_succ, space, minus, plus]
  rw [ofContent, isBlank_spaces_append, hheader, hmarked]
  rfl

theorem exists_marker_of_changed {content : Bytes} (h : ofContent content = .changed) :
    ∃ b code, content = b :: code ∧ (b = minus ∨ b = plus) := by
  unfold ofContent at h
  split at h
  · cases h
  · split at h
    · cases h
    · split at h
      · rename_i hmarked
        cases content with
        | nil => simp [isMarked] at hmarked
        | cons b code => exact ⟨b, code, rfl, by simpa [isMarked] using hmarked⟩
      · cases h

theorem isBlank_of_isCode {content : Bytes} (h : (ofContent content).isCode = true) :
    isBlank content = false := by
  by_contra hblank
  rw [Bool.not_eq_false] at hblank
  simp [ofContent, hblank, isCode] at h

end LineKind

namespace BodyLine

theorem moved_of_ne_changed {l : BodyLine} (h : l.kind ≠ .changed) (n : Nat) :
    l.moved n = l.content := by
  unfold moved
  split
  · rename_i hkind
    exact absurd hkind h
  · rfl

theorem respaces_moved (n : Nat) (l : BodyLine) : Respaces l.content (l.moved n) := by
  by_cases h : l.kind = .changed
  · obtain ⟨b, code, hcontent, hb⟩ := LineKind.exists_marker_of_changed h
    simp only [moved, h, hcontent, moveMarker]
    apply Respaces.marker hb
    omega
  · rw [moved_of_ne_changed h]
    exact .refl _

theorem moved_zero (l : BodyLine) : l.moved 0 = l.content := by
  by_cases h : l.kind = .changed
  · obtain ⟨b, code, hcontent, hb⟩ := LineKind.exists_marker_of_changed h
    simp [moved, h, hcontent, moveMarker]
  · exact moved_of_ne_changed h 0

/-- Behind spaces a marker is none, so a line moves once. -/
theorem kind_moved_ne_changed (n : Nat) (l : BodyLine) :
    LineKind.ofContent (l.moved (n + 1)) ≠ .changed := by
  by_cases h : l.kind = .changed
  · obtain ⟨b, code, hcontent, hb⟩ := LineKind.exists_marker_of_changed h
    simp only [moved, h, hcontent, moveMarker]
    rw [LineKind.ofContent_spaces_succ_append]
    split <;> simp
  · rwa [moved_of_ne_changed h]

theorem respaces_shifted (pad : Nat) (l : BodyLine) :
    Respaces l.content (l.shifted pad) := by
  unfold shifted
  split
  · exact .indent pad l.content
  · exact .refl _

theorem shifted_zero (l : BodyLine) : l.shifted 0 = l.content := by
  simp [shifted]

theorem shifted_of_not_isCode {l : BodyLine} (h : l.isCode = false) (pad : Nat) :
    l.shifted pad = l.content := by
  simp [shifted, h]

theorem isCode_shifted (pad : Nat) (l : BodyLine) :
    (LineKind.ofContent (l.shifted pad)).isCode = l.isCode := by
  cases pad with
  | zero => rw [shifted_zero, isCode, kind]
  | succ pad =>
      cases h : l.isCode with
      | false => rwa [shifted_of_not_isCode h]
      | true =>
          rw [shifted, if_pos h, LineKind.ofContent_spaces_succ_append,
            LineKind.isBlank_of_isCode h]
          rfl

/-- The line, moved right by `pad` if it is code. -/
def shift (pad : Nat) (l : BodyLine) : BodyLine := ⟨l.shifted pad, l.ending⟩

@[simp] theorem isCode_shift (pad : Nat) (l : BodyLine) : (l.shift pad).isCode = l.isCode :=
  l.isCode_shifted pad

theorem leadingSpaces_shifted {l : BodyLine} (h : l.isCode = true) (pad : Nat) :
    leadingSpaces (l.shifted pad) = pad + leadingSpaces l.content := by
  rw [shifted, if_pos h, leadingSpaces_spaces_append]

theorem shifted_succ_ne_iff {pad : Nat} {l : BodyLine} :
    l.shifted (pad + 1) ≠ l.content ↔ l.isCode = true := by
  cases h : l.isCode with
  | false => simp [shifted_of_not_isCode h]
  | true =>
      simp only [iff_true]
      intro heq
      have hspaces := leadingSpaces_shifted h (pad + 1)
      rw [heq] at hspaces
      omega

end BodyLine

/-- The indents of the code lines of a body, as a set, for only the least of them counts. -/
def codeIndents (lines : List BodyLine) : Set Nat :=
  {k | ∃ l ∈ lines, l.isCode = true ∧ leadingSpaces l.content = k}

section Indents

variable {lines : List BodyLine}

/-- The indentation of a body with code is that of its least indented code line. -/
theorem isLeast_codeIndent (h : ∃ l ∈ lines, l.isCode = true) :
    IsLeast (codeIndents lines) (codeIndent lines) := by
  have hmem : ∀ l ∈ lines, l.isCode = true → leadingSpaces l.content ∈
      (lines.filter BodyLine.isCode).map fun l => leadingSpaces l.content :=
    fun l hl hcode => List.mem_map_of_mem (List.mem_filter.2 ⟨hl, hcode⟩)
  obtain ⟨l, hl, hcode⟩ := h
  obtain ⟨m, hm⟩ := Option.isSome_iff_exists.1 (List.isSome_min?_of_mem (hmem l hl hcode))
  rw [codeIndent, hm, Option.getD_some]
  constructor
  · obtain ⟨l, hl, rfl⟩ := List.mem_map.1 (List.min?_mem hm)
    exact ⟨l, (List.mem_filter.1 hl).1, (List.mem_filter.1 hl).2, rfl⟩
  · rintro _ ⟨l, hl, hcode, rfl⟩
    exact (List.le_min?_iff hm).1 (Nat.le_refl _) _ (hmem l hl hcode)

theorem le_codeIndent_iff (h : ∃ l ∈ lines, l.isCode = true) {n : Nat} :
    n ≤ codeIndent lines ↔
      ∀ l ∈ lines, l.isCode = true → n ≤ leadingSpaces l.content := by
  rw [le_isGLB_iff (isLeast_codeIndent h).isGLB]
  constructor
  · intro hn l hl hcode
    exact hn ⟨l, hl, hcode, rfl⟩
  · rintro hn _ ⟨l, hl, hcode, rfl⟩
    exact hn l hl hcode

/-- Moving code right translates its indents. -/
theorem codeIndents_map_shift (pad : Nat) (lines : List BodyLine) :
    codeIndents (lines.map (BodyLine.shift pad)) = (pad + ·) '' codeIndents lines := by
  ext k
  constructor
  · rintro ⟨_, hl', hcode, rfl⟩
    obtain ⟨l, hl, rfl⟩ := List.mem_map.1 hl'
    rw [BodyLine.isCode_shift] at hcode
    exact ⟨_, ⟨l, hl, hcode, rfl⟩, (BodyLine.leadingSpaces_shifted hcode pad).symm⟩
  · rintro ⟨_, ⟨l, hl, hcode, rfl⟩, rfl⟩
    refine ⟨l.shift pad, List.mem_map_of_mem hl, ?_, BodyLine.leadingSpaces_shifted hcode pad⟩
    rw [BodyLine.isCode_shift, hcode]

theorem isLeast_codeIndents_shift {m : Nat} (h : IsLeast (codeIndents lines) m) (pad : Nat) :
    IsLeast (codeIndents (lines.map (BodyLine.shift pad))) (pad + m) := by
  have hmono : Monotone (pad + ·) := fun _ _ hab => Nat.add_le_add_left hab pad
  rw [codeIndents_map_shift]
  exact hmono.map_isLeast h

theorem codeIndent_map_shift (h : ∃ l ∈ lines, l.isCode = true) (pad : Nat) :
    codeIndent (lines.map (BodyLine.shift pad)) = pad + codeIndent lines := by
  have hcode : ∃ l ∈ lines.map (BodyLine.shift pad), l.isCode = true := by
    obtain ⟨l, hl, hl'⟩ := h
    exact ⟨l.shift pad, List.mem_map_of_mem hl, (l.isCode_shift pad).trans hl'⟩
  exact (isLeast_codeIndent hcode).unique (isLeast_codeIndents_shift (isLeast_codeIndent h) pad)

end Indents

/-- Bodies are told apart by their lines. -/
theorem bodyLines_inj {a b : Bytes} : bodyLines a = bodyLines b ↔ a = b := by
  have hinj : Function.Injective BodyLine.ofText :=
    Function.LeftInverse.injective BodyLine.text_ofText
  rw [bodyLines, bodyLines, (List.map_injective_iff.2 hinj).eq_iff, splitLines_inj]

namespace Policy

/-- The content that a line of a body gets, for a fence at `n`. -/
def content (policy : Policy) (n : Nat) (lines : List BodyLine) (l : BodyLine) : Bytes :=
  match policy with
  | .changedLines => l.moved n
  | .baseline => l.shifted (n - codeIndent lines)

def line (policy : Policy) (n : Nat) (lines : List BodyLine) (l : BodyLine) : BodyLine :=
  ⟨policy.content n lines l, l.ending⟩

/-- The lines of a realigned body. -/
def reline (policy : Policy) (n : Nat) (body : List Bytes) : List Bytes :=
  body.map fun text => (policy.line n (body.map .ofText) (.ofText text)).text

/-- Every line has the content that it would get. -/
def Settled (policy : Policy) (n : Nat) (lines : List BodyLine) : Prop :=
  ∀ l ∈ lines, policy.content n lines l = l.content

theorem respaces_content (policy : Policy) (n : Nat) (lines : List BodyLine)
    (l : BodyLine) : Respaces l.content (policy.content n lines l) := by
  cases policy with
  | changedLines => exact l.respaces_moved n
  | baseline => exact l.respaces_shifted _

theorem settled_changedLines (n : Nat) (lines : List BodyLine) :
    Settled .changedLines n (lines.map (line .changedLines n lines)) := by
  intro l' hl'
  obtain ⟨l, hl, rfl⟩ := List.mem_map.1 hl'
  cases n with
  | zero => exact BodyLine.moved_zero _
  | succ n =>
      apply BodyLine.moved_of_ne_changed
      exact BodyLine.kind_moved_ne_changed n l

theorem settled_baseline (n : Nat) (lines : List BodyLine) :
    Settled .baseline n (lines.map (line .baseline n lines)) := by
  intro l' hl'
  cases hcode : l'.isCode with
  | false => exact BodyLine.shifted_of_not_isCode hcode _
  | true =>
      obtain ⟨l, hl, rfl⟩ := List.mem_map.1 hl'
      have hindent : codeIndent (lines.map (line .baseline n lines)) =
          n - codeIndent lines + codeIndent lines :=
        codeIndent_map_shift ⟨l, hl, (l.isCode_shift _).symm.trans hcode⟩ _
      have hzero : n - codeIndent (lines.map (line .baseline n lines)) = 0 := by omega
      rw [content, hzero, BodyLine.shifted_zero]

/-- A policy has nothing left to do on the lines that it wrote. -/
theorem settled_line (policy : Policy) (n : Nat) (lines : List BodyLine) :
    policy.Settled n (lines.map (policy.line n lines)) := by
  cases policy with
  | changedLines => exact settled_changedLines n lines
  | baseline => exact settled_baseline n lines

/-- A fence that is not indented asks for nothing. -/
theorem settled_zero (policy : Policy) (lines : List BodyLine) : policy.Settled 0 lines := by
  intro l _
  cases policy with
  | changedLines => exact l.moved_zero
  | baseline => rw [content, Nat.zero_sub, BodyLine.shifted_zero]

section Body

variable (policy : Policy) (n : Nat) {body : List Bytes}

theorem respacesLine_line (lines : List BodyLine) (text : Bytes) :
    RespacesLine text (policy.line n lines (.ofText text)).text :=
  .of_content (policy.respaces_content n lines (.ofText text))

theorem respaces_reline (body : List Bytes) :
    List.Forall₂ RespacesLine body (policy.reline n body) := by
  rw [reline, List.forall₂_map_right_iff, List.forall₂_same]
  intro text htext
  exact policy.respacesLine_line n _ text

@[simp] theorem length_reline (body : List Bytes) :
    (policy.reline n body).length = body.length := by
  simp [reline]

/-- The lines of a realigned body are cut where their new contents end. -/
theorem map_ofText_reline (body : List Bytes) :
    (policy.reline n body).map BodyLine.ofText =
      (body.map BodyLine.ofText).map (policy.line n (body.map .ofText)) := by
  rw [reline, List.map_map, List.map_map]
  apply List.map_congr_left
  intro text htext
  have hcontent := (policy.respaces_content n (body.map .ofText) (.ofText text)).lineContent_eq
    (lineContent_lineContent text)
  have hending : ∀ b ∈ lineEnding text, isLineEnd b = true :=
    fun _ => isLineEnd_of_mem_lineEnding
  simp only [Function.comp_apply, BodyLine.ofText, BodyLine.text, line] at hcontent ⊢
  rw [lineContent_append_ending hcontent hending, lineEnding_append_ending hcontent hending]

theorem reline_of_settled (h : policy.Settled n (body.map .ofText)) :
    policy.reline n body = body := by
  conv_rhs => rw [← List.map_id body]
  apply List.map_congr_left
  intro text htext
  have hcontent := h (.ofText text) (List.mem_map_of_mem htext)
  rw [BodyLine.text, line, hcontent]
  exact lineContent_append_lineEnding text

theorem settled_reline (body : List Bytes) :
    policy.Settled n ((policy.reline n body).map .ofText) := by
  rw [map_ofText_reline]
  exact policy.settled_line n _

/-- A realigned body, line by line. -/
theorem realign_flatten (hcut : IsCut body) :
    policy.realign n body.flatten =
      ⟨(policy.reline n body).flatten, (body.map BodyLine.ofText).countP fun l =>
        policy.content n (body.map .ofText) l != l.content⟩ := by
  have hlines : bodyLines body.flatten = body.map .ofText := by
    rw [bodyLines, hcut.splitLines_flatten]
  cases policy with
  | changedLines =>
      simp only [realign, moveChangedLines, hlines, List.flatMap_def, List.map_map,
        Function.comp_def, reline, line, content, BodyLine.text]
  | baseline =>
      have hcount : (if n - codeIndent (body.map BodyLine.ofText) = 0 then 0
          else (body.map BodyLine.ofText).countP BodyLine.isCode) =
          (body.map BodyLine.ofText).countP fun l =>
            l.shifted (n - codeIndent (body.map .ofText)) != l.content := by
        cases n - codeIndent (body.map BodyLine.ofText) with
        | zero => simp [BodyLine.shifted_zero]
        | succ pad =>
            rw [if_neg (by omega)]
            apply List.countP_congr
            intro l hl
            rw [bne_iff_ne, BodyLine.shifted_succ_ne_iff]
      simp only [realign, shiftCode, hlines, hcount, List.flatMap_def, List.map_map,
        Function.comp_def, reline, line, content, BodyLine.text]

theorem changedLines_eq_zero_iff (hcut : IsCut body) :
    (policy.realign n body.flatten).changedLines = 0 ↔
      policy.Settled n (body.map .ofText) := by
  rw [policy.realign_flatten n hcut, List.countP_eq_zero]
  simp [Settled]

/-- A realigned body is read back as the lines of the body with their new contents. -/
theorem bodyLines_realign (body : Bytes) :
    bodyLines (policy.realign n body).text =
      (bodyLines body).map (policy.line n (bodyLines body)) := by
  obtain ⟨hcut, hflat⟩ := isCut_splitLines body
  have hreline := hcut.respaced (policy.respaces_reline n (splitLines body))
  conv_lhs => rw [← hflat]
  rw [policy.realign_flatten n hcut, bodyLines, hreline.splitLines_flatten,
    policy.map_ofText_reline]
  rfl

/-- A policy that has nothing to do leaves the body and counts no line. -/
theorem realign_of_settled {body : Bytes} (h : policy.Settled n (bodyLines body)) :
    policy.realign n body = ⟨body, 0⟩ := by
  obtain ⟨hcut, hflat⟩ := isCut_splitLines body
  have hrealign := policy.realign_flatten n hcut
  have hcount := (policy.changedLines_eq_zero_iff n hcut).2 h
  rw [hrealign] at hcount
  dsimp only at hcount
  rwa [policy.reline_of_settled n h, hcount, hflat] at hrealign

theorem realign_zero (body : Bytes) : policy.realign 0 body = ⟨body, 0⟩ :=
  policy.realign_of_settled 0 (policy.settled_zero _)

/-- The lines counted as changed are those whose content differs. -/
theorem changedLines_eq_differences_content (body : Bytes) :
    (policy.realign n body).changedLines = differences ((bodyLines body).map BodyLine.content)
      ((bodyLines (policy.realign n body).text).map BodyLine.content) := by
  obtain ⟨hcut, hflat⟩ := isCut_splitLines body
  rw [policy.bodyLines_realign, List.map_map, differences_map_map]
  conv_lhs => rw [← hflat]
  rw [policy.realign_flatten n hcut]
  apply List.countP_congr
  intro l _
  rw [bne_comm]
  rfl

end Body

end Policy

theorem realignBody_of_le {options : Options} {indent : Nat}
    (h : indent ≤ options.limits.maxFenceIndent.toNat) (body : Bytes) :
    realignBody options indent body = .ok (options.policy.realign indent body) :=
  if_neg (Nat.not_lt.2 h)

theorem eq_realign_of_realignBody {options : Options} {indent : Nat} {body : Bytes}
    {r : Realigned} (h : realignBody options indent body = .ok r) :
    r = options.policy.realign indent body := by
  unfold realignBody at h
  dsimp only at h
  split at h
  · cases h
  · exact (Except.ok.inj h).symm

end FencedDiff
