import FencedDiff.Proofs.Fence.Placement

/-!
# Which block is misplaced

A list of blocks that the placement check refuses has a first block at which it goes wrong:
the blocks in front of that one are well placed, and it has a fault of its own or begins
before one of them ends. The check reports this block and, of several faults, its bounds
before its body and its body before its order (`checkPlacement_eq_error_iff`).

The check compares a block with the one in front of it alone. That is enough, for of well
placed blocks the last one ends last (`WellPlaced.lt_endBehind_iff`).
-/

namespace FencedDiff

/-- Where blocks end: with the last of them, or at `previousEnd` if there is none. -/
def endBehind (previousEnd : Nat) (blocks : List Block) : Nat :=
  (blocks.getLast?.map fun b => b.span.stop).getD previousEnd

/-- What is wrong with a block that comes behind others. -/
inductive Block.Fault (length : Nat) (before : List Block) (b : Block) : PlacementError → Prop
  | outOfBounds (hbounds : ¬ b.InBounds length) :
      b.Fault length before (.outOfBounds b.span length)
  | bodyOutside (hbounds : b.InBounds length) (hbody : ¬ b.Within length) :
      b.Fault length before (.bodyOutside b.body b.span)
  | overlap (hwithin : b.Within length) {a : Block} (ha : a ∈ before)
      (hlt : b.span.start < a.span.stop) :
      b.Fault length before (.overlap b.span (endBehind 0 before))

variable {length previousEnd : Nat} {before blocks : List Block} {b : Block} {e : PlacementError}

@[simp] theorem endBehind_nil : endBehind previousEnd [] = previousEnd := rfl

@[simp] theorem endBehind_cons :
    endBehind previousEnd (b :: blocks) = endBehind b.span.stop blocks := by
  rw [endBehind, endBehind, List.getLast?_cons]
  cases blocks.getLast? <;> rfl

/-- Behind well placed blocks, a place is in front of the end of one of them exactly if it is
in front of the end of the last. -/
theorem WellPlaced.lt_endBehind_iff (h : WellPlaced length before) {place : Nat} :
    place < endBehind 0 before ↔ ∃ a ∈ before, place < a.span.stop := by
  rcases List.eq_nil_or_concat before with rfl | ⟨init, last, rfl⟩
  · simp
  · have hlast : endBehind 0 (init.concat last) = last.span.stop := by
      simp [endBehind]
    rw [hlast]
    rw [List.concat_eq_append] at h ⊢
    constructor
    · exact fun hlt => ⟨last, by simp, hlt⟩
    · rintro ⟨a, ha, hlt⟩
      rw [List.mem_append, List.mem_singleton] at ha
      rcases ha with ha | rfl
      · have hbounds := h.within last (by simp)
        have horder := (List.pairwise_append.1 h.ordered).2.2 a ha last (by simp)
        have h₁ := hbounds.start_le
        have h₂ := hbounds.body_le
        have h₃ := hbounds.stop_le
        omega
      · exact hlt

/-- Behind well placed blocks, a block is refused for its fault. -/
theorem WellPlaced.check_eq_error_iff (h : WellPlaced length before) :
    checkPlacementFrom length (endBehind 0 before) [b] = .error e ↔ b.Fault length before e := by
  rw [checkPlacementFrom, checkPlacementFrom]
  by_cases hbounds : b.InBounds length
  · rw [if_neg (Block.inBounds_iff.1 hbounds)]
    by_cases hwithin : b.Within length
    · rw [if_neg (hbounds.within_iff.1 hwithin)]
      constructor
      · intro herror
        split at herror
        · rename_i hlt
          obtain ⟨a, ha, hlt⟩ := h.lt_endBehind_iff.1 hlt
          rw [← Except.error.inj herror]
          exact .overlap hwithin ha hlt
        · cases herror
      · intro hfault
        cases hfault with
        | outOfBounds hnot => exact absurd hbounds hnot
        | bodyOutside _ hnot => exact absurd hwithin hnot
        | overlap _ ha hlt => rw [if_pos (h.lt_endBehind_iff.2 ⟨_, ha, hlt⟩)]
    · rw [if_pos (not_not.1 (mt hbounds.within_iff.2 hwithin))]
      constructor
      · intro herror
        rw [← Except.error.inj herror]
        exact .bodyOutside hbounds hwithin
      · intro hfault
        cases hfault with
        | outOfBounds hnot => exact absurd hbounds hnot
        | bodyOutside _ _ => rfl
        | overlap hin => exact absurd hin hwithin
  · rw [if_pos (not_not.1 (mt Block.inBounds_iff.2 hbounds))]
    constructor
    · intro herror
      rw [← Except.error.inj herror]
      exact .outOfBounds hbounds
    · intro hfault
      cases hfault with
      | outOfBounds _ => rfl
      | bodyOutside hin => exact absurd hin hbounds
      | overlap hin => exact absurd hin.inBounds hbounds

theorem checkPlacementFrom_append :
    checkPlacementFrom length previousEnd (before ++ blocks) =
      checkPlacementFrom length previousEnd before >>= fun _ =>
        checkPlacementFrom length (endBehind previousEnd before) blocks := by
  induction before generalizing previousEnd with
  | nil => rfl
  | cons c before ih =>
      have hbefore : checkPlacementFrom length previousEnd (c :: before) = _ :=
        checkPlacementFrom_cons
      rw [List.cons_append, checkPlacementFrom_cons, hbefore, endBehind_cons]
      cases checkPlacementFrom length previousEnd [c] with
      | error e => rfl
      | ok _ => exact ih

/-- The check ends at the first block that it refuses, and of the blocks in front of that one
it knows only where they end. -/
theorem checkPlacementFrom_eq_error_iff :
    checkPlacementFrom length previousEnd blocks = .error e ↔
      ∃ before b after, blocks = before ++ b :: after ∧
        checkPlacementFrom length previousEnd before = .ok () ∧
        checkPlacementFrom length (endBehind previousEnd before) [b] = .error e := by
  constructor
  · intro h
    induction blocks generalizing previousEnd with
    | nil => cases h
    | cons c blocks ih =>
        rw [checkPlacementFrom_cons] at h
        cases hc : checkPlacementFrom length previousEnd [c] with
        | error e' =>
            rw [hc] at h
            rw [← Except.error.inj h]
            exact ⟨[], c, blocks, rfl, rfl, hc⟩
        | ok _ =>
            rw [hc] at h
            obtain ⟨before, b, after, rfl, hbefore, hb⟩ := ih h
            refine ⟨c :: before, b, after, rfl, ?_, by rwa [endBehind_cons]⟩
            rw [checkPlacementFrom_cons, hc]
            exact hbefore
  · rintro ⟨before, b, after, rfl, hbefore, hb⟩
    rw [checkPlacementFrom_append, hbefore]
    change checkPlacementFrom length (endBehind previousEnd before) (b :: after) = _
    rw [checkPlacementFrom_cons, hb]
    rfl

/-- The check reports the first block that is misplaced behind the blocks in front of it, and
what is wrong with it. -/
theorem checkPlacement_eq_error_iff :
    checkPlacement length blocks = .error e ↔
      ∃ before b after, blocks = before ++ b :: after ∧ WellPlaced length before ∧
        b.Fault length before e := by
  rw [checkPlacement, checkPlacementFrom_eq_error_iff]
  refine exists_congr fun before => exists_congr fun b => exists_congr fun after =>
    and_congr_right fun _ => ?_
  change checkPlacement length before = .ok () ∧ _ ↔ _
  rw [checkPlacement_eq_ok_iff]
  exact and_congr_right fun h => h.check_eq_error_iff

/-- The check accepts the lists of blocks that are well placed, and so with a list all that is
left of it when blocks are dropped. It refuses any other list for the first block that is
misplaced. -/
theorem checkPlacement_decides (length : Nat) (blocks : List Block) :
    (checkPlacement length blocks = .ok () ↔
      (∀ b ∈ blocks, b.span.start ≤ b.body.start ∧ b.body.start ≤ b.body.stop ∧
        b.body.stop ≤ b.span.stop ∧ b.span.stop ≤ length) ∧
      ∀ i j (hij : i < j) (hj : j < blocks.length),
        blocks[i].span.stop ≤ blocks[j].span.start) ∧
    (checkPlacement length blocks = .ok () →
      ∀ fewer, fewer.Sublist blocks → checkPlacement length fewer = .ok ()) ∧
    ∀ e, checkPlacement length blocks = .error e ↔
      ∃ before b after, blocks = before ++ b :: after ∧ WellPlaced length before ∧
        b.Fault length before e := by
  refine ⟨?_, ?_, fun _ => checkPlacement_eq_error_iff⟩
  · rw [checkPlacement_eq_ok_iff]
    constructor
    · intro h
      refine ⟨fun b hb => ?_, fun i j hij hj => ?_⟩
      · obtain ⟨hstart, hbody, hstop, hlength⟩ := h.within b hb
        exact ⟨hstart, hbody, hstop, hlength⟩
      · exact List.pairwise_iff_getElem.1 h.ordered i j (hij.trans hj) hj hij
    · rintro ⟨hwithin, hpairs⟩
      refine ⟨fun b hb => ?_, ?_⟩
      · obtain ⟨hstart, hbody, hstop, hlength⟩ := hwithin b hb
        exact ⟨hstart, hbody, hstop, hlength⟩
      · exact List.pairwise_iff_getElem.2 fun i j _ hj hij => hpairs i j hij hj
  · simp only [checkPlacement_eq_ok_iff]
    exact fun h fewer hsub => h.sublist hsub

-- Of a block that has every fault, the bounds are reported.
example : checkPlacement 8 [⟨⟨2, 6⟩, ⟨3, 5⟩, 0, 2, 0⟩, ⟨⟨5, 9⟩, ⟨4, 1⟩, 3, 5, 0⟩] =
    .error (.outOfBounds ⟨5, 9⟩ 8) := by
  decide

end FencedDiff
