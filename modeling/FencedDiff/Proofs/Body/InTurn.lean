import FencedDiff.Proofs.Body.Marker
import FencedDiff.Proofs.Body.Settled
import FencedDiff.Proofs.Body.Shift

/-!
# Bodies realigned in turn

A body may be realigned again and again, each time for a fence of its own and with options
of its own (`realignInTurn`). Of the two policies one adds up and the other does not.

Where all code moves, two turns are one turn for the deeper of the two fences: the first
leaves the code as deep as its fence or deeper, and the second makes up for what is
missing. So any number of turns is one for the deepest fence (`realignInTurn_baseline`).

Where marked lines move, the first turn for an indented fence decides. It leaves no marked
line, and neither does a turn that moves all code to such a fence (`unmarked_line_succ`).
From then on there is none, whatever turns follow (`Unmarked.line`), and there is nothing
to do for another turn that moves marked lines.
-/

namespace FencedDiff

open Bytes

/-- One of several turns in which a body is realigned. -/
structure Turn where
  options : Options
  /-- How deep the fence is. -/
  indent : Nat
  deriving DecidableEq, Repr

/-- The fence is not too deep. -/
def Turn.IsWithin (t : Turn) : Prop := t.indent ≤ t.options.limits.maxFenceIndent.toNat

/-- A body after all turns, up to the first that is refused. -/
def realignInTurn (body : Bytes) : List Turn → Except IndentTooLarge Bytes
  | [] => .ok body
  | t :: turns => do
    let r ← realignBody t.options t.indent body
    realignInTurn r.text turns

/-- None of the lines is marked. -/
def Unmarked (lines : List BodyLine) : Prop := ∀ l ∈ lines, l.kind ≠ .changed

theorem realignInTurn_cons {t : Turn} (h : t.IsWithin) (body : Bytes) (turns : List Turn) :
    realignInTurn body (t :: turns) =
      realignInTurn (t.options.policy.realign t.indent body).text turns := by
  rw [realignInTurn, realignBody_of_le h]
  rfl

/-- Two shifts to fences are one to the deeper of them. -/
theorem shiftCode_shiftCode (n₁ n₂ : Nat) (body : Bytes) :
    (shiftCode n₂ (shiftCode n₁ body).text).text = (shiftCode (max n₁ n₂) body).text := by
  by_cases hcode : ∃ l ∈ bodyLines body, l.isCode = true
  · have hshift : ∀ pad pad' : Nat, BodyLine.shift pad' ∘ BodyLine.shift pad =
        BodyLine.shift (pad + pad') := fun pad pad' => funext (BodyLine.shift_shift pad pad')
    rw [← bodyLines_inj, bodyLines_shiftCode, bodyLines_shiftCode, bodyLines_shiftCode,
      codeIndent_map_shift hcode, List.map_map, hshift]
    congr 2
    omega
  · have hnone : ∀ l ∈ bodyLines body, l.isCode = false := by simpa using hcode
    rw [shiftCode_of_not_isCode n₁ body hnone, shiftCode_of_not_isCode n₂ body hnone,
      shiftCode_of_not_isCode _ body hnone]

/-- Any number of turns that move all code are one for the deepest fence. -/
theorem realignInTurn_baseline {options : Options} (hpolicy : options.policy = .baseline)
    {ns : List Nat} (hns : ns.foldr max 0 ≤ options.limits.maxFenceIndent.toNat)
    (body : Bytes) : realignInTurn body (ns.map (Turn.mk options)) =
      .ok (shiftCode (ns.foldr max 0) body).text := by
  induction ns generalizing body with
  | nil =>
      change .ok body = Except.ok (Policy.realign .baseline 0 body).text
      rw [Policy.realign_zero]
  | cons n ns ih =>
      obtain ⟨hn, hns⟩ := Nat.max_le.1 hns
      have hwithin : (Turn.mk options n).IsWithin := hn
      rw [List.map_cons, realignInTurn_cons hwithin, ih hns, hpolicy]
      exact congrArg Except.ok (shiftCode_shiftCode n (ns.foldr max 0) body)

/-- Where all code moves, two turns leave the text that one turn for the deeper fence leaves.
So their order does not matter, and a turn that is repeated does no more. -/
theorem realignInTurn_max {options : Options} (hpolicy : options.policy = .baseline)
    {n₁ n₂ : Nat} (h₁ : n₁ ≤ options.limits.maxFenceIndent.toNat)
    (h₂ : n₂ ≤ options.limits.maxFenceIndent.toNat) (body : Bytes) :
    ∃ text, realignInTurn body [⟨options, max n₁ n₂⟩] = .ok text ∧
      realignInTurn body [⟨options, n₁⟩, ⟨options, n₂⟩] = .ok text ∧
      realignInTurn body [⟨options, n₂⟩, ⟨options, n₁⟩] = .ok text ∧
      (n₁ = n₂ → realignInTurn body [⟨options, n₁⟩] = .ok text) := by
  have hturns : ∀ ns : List Nat, ns.foldr max 0 = max n₁ n₂ →
      realignInTurn body (ns.map (Turn.mk options)) =
        .ok (shiftCode (max n₁ n₂) body).text := by
    intro ns hns
    rw [← hns]
    apply realignInTurn_baseline hpolicy
    rw [hns]
    exact Nat.max_le.2 ⟨h₁, h₂⟩
  refine ⟨_, hturns [max n₁ n₂] (by simp), hturns [n₁, n₂] (by simp),
    hturns [n₂, n₁] (by simp [Nat.max_comm]), ?_⟩
  rintro rfl
  exact hturns [n₁] (by simp)

theorem realignInTurn_max_unevenCode :
    realignInTurn unevenCode [⟨{ policy := .baseline }, 2⟩, ⟨{ policy := .baseline }, 3⟩] =
        .ok unevenCodeShifted ∧
      realignInTurn unevenCode [⟨{ policy := .baseline }, 3⟩, ⟨{ policy := .baseline }, 2⟩] =
        .ok unevenCodeShifted := by
  have honce : realignInTurn unevenCode [⟨{ policy := .baseline }, max 2 3⟩] =
      .ok unevenCodeShifted := by decide
  obtain ⟨text, hmax, hturns, hturns', _⟩ :=
    @realignInTurn_max { policy := .baseline } rfl 2 3 (by decide) (by decide) unevenCode
  rw [honce] at hmax
  cases hmax
  exact ⟨hturns, hturns'⟩

section Marked

variable {lines : List BodyLine}

theorem unmarked_iff_settled {n : Nat} :
    Unmarked lines ↔ Policy.Settled .changedLines (n + 1) lines := by
  constructor
  · intro h l hl
    exact BodyLine.moved_of_ne_changed (h l hl) _
  · intro h l hl hkind
    exact BodyLine.moved_succ_ne_iff.2 hkind (h l hl)

/-- A turn for an indented fence leaves no marked line, whichever lines it moves. -/
theorem unmarked_line_succ (policy : Policy) (n : Nat) (lines : List BodyLine) :
    Unmarked (lines.map (policy.line (n + 1) lines)) := by
  have hsettled := policy.settled_line (n + 1) lines
  rw [unmarked_iff_settled]
  cases policy with
  | changedLines => exact hsettled
  | baseline => exact hsettled.changedLines_of_baseline

/-- No turn marks a line. -/
theorem Unmarked.line (h : Unmarked lines) (policy : Policy) (n : Nat) :
    Unmarked (lines.map (policy.line n lines)) := by
  intro l' hl' hkind
  obtain ⟨l, hl, rfl⟩ := List.mem_map.1 hl'
  cases policy with
  | changedLines =>
      rw [Policy.line, Policy.content, BodyLine.moved_of_ne_changed (h l hl)] at hkind
      exact h l hl hkind
  | baseline =>
      have hstays : l.moved 1 = l.content := BodyLine.moved_of_ne_changed (h l hl) 1
      exact BodyLine.moved_succ_ne_iff.2 hkind (BodyLine.moved_shifted hstays _ _)

/-- Where no line is marked, there is nothing to do for a turn that moves marked lines. -/
theorem Unmarked.realign_eq {body : Bytes} (h : Unmarked (bodyLines body)) (n : Nat) :
    Policy.realign .changedLines n body = ⟨body, 0⟩ :=
  Policy.realign_of_settled .changedLines n fun l hl => BodyLine.moved_of_ne_changed (h l hl) n

theorem realignInTurn_of_unmarked {turns : List Turn} (hturns : ∀ t ∈ turns, t.IsWithin)
    {body : Bytes} (h : Unmarked (bodyLines body)) :
    ∃ text, realignInTurn body turns = .ok text ∧ Unmarked (bodyLines text) := by
  induction turns generalizing body with
  | nil => exact ⟨body, rfl, h⟩
  | cons t turns ih =>
      rw [List.forall_mem_cons] at hturns
      rw [realignInTurn_cons hturns.1]
      apply ih hturns.2
      rw [Policy.bodyLines_realign]
      exact h.line t.options.policy t.indent

end Marked

/-- The first turn for an indented fence decides about marked lines, whichever policy it has.
It leaves none, so that a later turn that moves marked lines does nothing and counts no
line, at once and after any other turns. A turn for a fence that is not indented decides
nothing. -/
theorem realignBody_first_wins {first later : Options} (hlater : later.policy = .changedLines)
    {n₁ n₂ : Nat} (h₁ : n₁ ≤ first.limits.maxFenceIndent.toNat)
    (h₂ : n₂ ≤ later.limits.maxFenceIndent.toNat) (body : Bytes) :
    ∃ r₁ r₂, realignBody first n₁ body = .ok r₁ ∧ realignBody later n₂ r₁.text = .ok r₂ ∧
      (n₁ = 0 → realignBody later n₂ body = .ok r₂) ∧
      (1 ≤ n₁ → r₂ = ⟨r₁.text, 0⟩ ∧ (∀ l ∈ bodyLines r₁.text, l.kind ≠ .changed) ∧
        ∀ turns : List Turn, (∀ t ∈ turns, t.IsWithin) → ∃ text,
          realignInTurn r₁.text turns = .ok text ∧ realignBody later n₂ text = .ok ⟨text, 0⟩) := by
  refine ⟨_, _, realignBody_of_le h₁ body, realignBody_of_le h₂ _, ?_, ?_⟩
  · rintro rfl
    rw [first.policy.realign_zero]
    exact realignBody_of_le h₂ body
  · intro hpos
    obtain ⟨n, rfl⟩ := Nat.exists_eq_add_of_le' hpos
    have hunmarked : Unmarked (bodyLines (first.policy.realign (n + 1) body).text) := by
      rw [first.policy.bodyLines_realign]
      exact unmarked_line_succ first.policy n _
    refine ⟨?_, hunmarked, fun turns hturns => ?_⟩
    · rw [hlater]
      exact hunmarked.realign_eq n₂
    · obtain ⟨text, htext, htextUnmarked⟩ := realignInTurn_of_unmarked hturns hunmarked
      refine ⟨text, htext, ?_⟩
      rw [realignBody_of_le h₂, hlater, htextUnmarked.realign_eq]

theorem realignBody_first_wins_markedLines :
    realignBody {} 2 markedLines = .ok ⟨markedLinesMoved, 5⟩ ∧
      realignBody {} 5 markedLinesMoved = .ok ⟨markedLinesMoved, 0⟩ ∧
      (∀ l ∈ bodyLines markedLinesMoved, l.kind ≠ .changed) ∧
      ∃ text, realignInTurn markedLinesMoved [⟨{ policy := .baseline }, 4⟩] = .ok text ∧
        realignBody {} 5 text = .ok ⟨text, 0⟩ := by
  have hfirst : realignBody {} 2 markedLines = .ok ⟨markedLinesMoved, 5⟩ := by decide
  obtain ⟨r₁, r₂, hr₁, hr₂, _, hwins⟩ :=
    @realignBody_first_wins {} {} rfl 2 5 (by decide) (by decide) markedLines
  rw [hfirst] at hr₁
  cases hr₁
  obtain ⟨rfl, hkinds, hturns⟩ := hwins (by decide)
  refine ⟨hfirst, hr₂, hkinds, hturns _ ?_⟩
  simp [Turn.IsWithin]

end FencedDiff
