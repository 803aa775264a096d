import FencedDiff.Document.History
import FencedDiff.Proofs.Body.Settled
import FencedDiff.Proofs.Document.Outcome

/-!
# Mixed histories

A document may be formatted again and again, each time with other options, and it
settles all the same: each policy changes it once at most, and once all code has
been moved to the fences nothing changes any more (`history_converges`).

What is carried through a history is `IsSettled`, that a policy has nothing to do in
the document. A revision settles the document for its own policy if it changes it. A
document without marked lines to move stays one, whatever is done to it, and it is
one if its code has reached the fences. So after a change by the baseline neither
policy has anything to do.
-/

namespace FencedDiff

open Bytes

theorem Part.Settled.changedLines_of_baseline {p : Part} (h : p.Settled .baseline) :
    p.Settled .changedLines := by
  cases p with
  | line text => trivial
  | block indent opening body closing => exact Policy.Settled.changedLines_of_baseline h

theorem Part.Settled.changedLines_realign {p : Part} (h : p.Settled .changedLines)
    (policy : Policy) : (p.realign policy).Settled .changedLines := by
  cases p with
  | line text => trivial
  | block indent opening body closing =>
      rw [realign, Settled, policy.map_ofText_reline]
      exact Policy.Settled.changedLines_line h policy

/-- The policy has nothing to do in the text. -/
def IsSettled (policy : Policy) (text : Bytes) : Prop :=
  ∃ parts, IsOutline parts ∧ partLines parts = splitLines text ∧ ∀ p ∈ parts, p.Settled policy

/-- The revision adds nothing to the document. -/
def Revision.IsPlain (r : Revision) : Prop := r.front = [] ∧ r.back = []

theorem IsSettled.changedLines_of_baseline {text : Bytes} (h : IsSettled .baseline text) :
    IsSettled .changedLines text := by
  obtain ⟨parts, hparts, hlines, hsettled⟩ := h
  exact ⟨parts, hparts, hlines, fun p hp => (hsettled p hp).changedLines_of_baseline⟩

section Step

variable {r : Revision} {text : Bytes}

/-- A plain revision realigns all bodies or leaves the document alone. -/
theorem Revision.apply_cases (hr : r.IsPlain) {parts : List Part} (hparts : IsOutline parts)
    (hlines : partLines parts = splitLines text) :
    r.apply text = text ∨ r.apply text = (realignLines r.options.policy parts).flatten := by
  have hgrow : r.grow text = text := by
    rw [grow, hr.1, hr.2, List.nil_append, List.append_nil]
  rw [apply, outcome, hgrow]
  cases h : format r.options text with
  | error e => exact .inl rfl
  | ok f =>
      rcases format_eq_ok_cases h with rfl | ⟨_, rfl⟩
      · exact .inl rfl
      · exact .inr (hparts.text_formatted hlines r.options.policy)

theorem isSettled_realignLines {parts : List Part} (hparts : IsOutline parts)
    (hlines : partLines parts = splitLines text) {policy policy' : Policy}
    (h : ∀ p ∈ parts, (p.realign policy).Settled policy') :
    IsSettled policy' (realignLines policy parts).flatten := by
  have hcut := isCut_partLines hlines
  refine ⟨parts.map (Part.realign policy), hparts.realign policy, ?_, ?_⟩
  · exact (hcut.realignLines policy).splitLines_flatten.symm
  · intro p hp
    obtain ⟨q, hq, rfl⟩ := List.mem_map.1 hp
    exact h q hq

/-- A revision that changes the document leaves nothing to do to its policy. -/
theorem Revision.isSettled_apply (hr : r.IsPlain) (hne : r.apply text ≠ text) :
    IsSettled r.options.policy (r.apply text) := by
  obtain ⟨parts, hparts, hlines⟩ := exists_outline (splitLines text)
  rcases apply_cases hr hparts hlines with heq | heq
  · exact absurd heq hne
  · rw [heq]
    exact isSettled_realignLines hparts hlines fun p _ => p.settled_realign _

theorem IsSettled.apply_eq (h : IsSettled r.options.policy text) (hr : r.IsPlain) :
    r.apply text = text := by
  obtain ⟨parts, hparts, hlines, hsettled⟩ := h
  rcases Revision.apply_cases hr hparts hlines with heq | heq
  · exact heq
  · have hmap : parts.map (Part.realign r.options.policy) = parts.map id :=
      List.map_congr_left fun p hp => Part.realign_of_settled (hsettled p hp)
    rw [heq, realignLines, hmap, List.map_id, flatten_partLines hlines]

/-- A document without marked lines to move stays one. -/
theorem IsSettled.changedLines_apply (h : IsSettled .changedLines text) (hr : r.IsPlain) :
    IsSettled .changedLines (r.apply text) := by
  obtain ⟨parts, hparts, hlines, hsettled⟩ := h
  rcases Revision.apply_cases hr hparts hlines with heq | heq
  · rw [heq]
    exact ⟨parts, hparts, hlines, hsettled⟩
  · rw [heq]
    exact isSettled_realignLines hparts hlines fun p hp => (hsettled p hp).changedLines_realign _

/-- Where all code has reached the fences, no policy has anything to do. -/
theorem IsSettled.apply_eq_of_baseline (h : IsSettled .baseline text) (hr : r.IsPlain) :
    r.apply text = text := by
  cases hpolicy : r.options.policy with
  | changedLines => exact IsSettled.apply_eq (hpolicy ▸ h.changedLines_of_baseline) hr
  | baseline => exact IsSettled.apply_eq (hpolicy ▸ h) hr

end Step

section Run

variable {text : Bytes} {history : List Revision}

theorem revise_append (text : Bytes) (a b : List Revision) :
    revise text (a ++ b) = revise (revise text a) b := List.foldl_append

theorem IsSettled.changedLines_revise (h : IsSettled .changedLines text)
    (hplain : ∀ r ∈ history, r.IsPlain) : IsSettled .changedLines (revise text history) := by
  induction history generalizing text with
  | nil => exact h
  | cons r history ih =>
      rw [List.forall_mem_cons] at hplain
      exact ih (h.changedLines_apply hplain.1) hplain.2

theorem IsSettled.revise_eq (h : IsSettled .baseline text)
    (hplain : ∀ r ∈ history, r.IsPlain) : revise text history = text := by
  induction history generalizing text with
  | nil => rfl
  | cons r history ih =>
      rw [List.forall_mem_cons] at hplain
      change revise (r.apply text) history = text
      rw [h.apply_eq_of_baseline hplain.1]
      exact ih h hplain.2

/-- Revision `i` of the history has the policy and changes the document. -/
def ChangesAt (text : Bytes) (history : List Revision) (policy : Policy) (i : Nat) : Prop :=
  ∃ r, history[i]? = some r ∧ r.options.policy = policy ∧
    revise text (history.take (i + 1)) ≠ revise text (history.take i)

theorem revise_take_succ {i : Nat} {r : Revision} (hr : history[i]? = some r) (text : Bytes) :
    revise text (history.take (i + 1)) = r.apply (revise text (history.take i)) := by
  rw [List.take_add_one, hr, revise_append]
  rfl

/-- The revisions before `j` are those up to `i` and those between. -/
theorem revise_take_of_lt {i j : Nat} (hij : i < j) (text : Bytes) :
    revise text (history.take j) =
      revise (revise text (history.take (i + 1))) ((history.drop (i + 1)).take (j - (i + 1))) := by
  obtain ⟨d, rfl⟩ := Nat.exists_eq_add_of_le (Nat.succ_le_of_lt hij)
  rw [← revise_append, List.take_add, Nat.succ_eq_add_one, Nat.add_sub_cancel_left]

/-- Of two revisions that change the document, the earlier one moves marked lines and
the later one all code. -/
theorem ChangesAt.policies (hplain : ∀ r ∈ history, r.IsPlain) {p q : Policy} {i j : Nat}
    (hi : ChangesAt text history p i) (hj : ChangesAt text history q j) (hij : i < j) :
    p = .changedLines ∧ q = .baseline := by
  obtain ⟨r, hr, rfl, hri⟩ := hi
  obtain ⟨s, hs, rfl, hsj⟩ := hj
  have hrplain := hplain r (List.mem_of_getElem? hr)
  have hsplain := hplain s (List.mem_of_getElem? hs)
  have hbetween : ∀ t ∈ (history.drop (i + 1)).take (j - (i + 1)), t.IsPlain :=
    fun t ht => hplain t (List.mem_of_mem_drop (List.mem_of_mem_take ht))
  rw [revise_take_succ hr] at hri
  rw [revise_take_succ hs, revise_take_of_lt hij, revise_take_succ hr] at hsj
  have hsettled := r.isSettled_apply hrplain hri
  cases hp : r.options.policy with
  | baseline =>
      -- the document is the same before revision `j` and after it
      rw [hp] at hsettled
      rw [hsettled.revise_eq hbetween] at hsj
      exact absurd (hsettled.apply_eq_of_baseline hsplain) hsj
  | changedLines =>
      rw [hp] at hsettled
      cases hq : s.options.policy with
      | baseline => exact ⟨rfl, rfl⟩
      | changedLines =>
          have hlater := hsettled.changedLines_revise hbetween
          rw [← hq] at hlater
          exact absurd (hlater.apply_eq hsplain) hsj

end Run

/-- Formatting again and again converges: each policy changes the document in one revision
at most, and after a change by the baseline there are no more. -/
theorem history_converges {text : Bytes} {history : List Revision}
    (hplain : ∀ r ∈ history, r.IsPlain) :
    (∀ policy i j, ChangesAt text history policy i → ChangesAt text history policy j → i = j) ∧
      ∀ policy i j, ChangesAt text history .baseline i → i < j →
        ¬ ChangesAt text history policy j := by
  constructor
  · intro policy i j hi hj
    rcases Nat.lt_trichotomy i j with hij | hij | hij
    · obtain ⟨hp, hq⟩ := hi.policies hplain hj hij
      rw [hp] at hq
      cases hq
    · exact hij
    · obtain ⟨hp, hq⟩ := hj.policies hplain hi hij
      rw [hp] at hq
      cases hq
  · intro policy i j hi hij hj
    cases (hi.policies hplain hj hij).1

/-- A removed line and a line of context behind an indented fence. -/
def removedBeforeContext : Bytes :=
  space :: ticks ++ tag ++ [newline, minus, 0x61, newline, 0x62, newline] ++ ticks

/-- Both policies in turn, and between them a revision that fails. -/
def mixedHistory : List Revision :=
  [{}, { options := { limits := { maxFenceIndent := 0 } } }, { options := { policy := .baseline } },
    {}]

theorem history_converges_mixed :
    (∀ r ∈ mixedHistory, r.IsPlain) ∧
      ChangesAt removedBeforeContext mixedHistory .changedLines 0 ∧
      ChangesAt removedBeforeContext mixedHistory .baseline 2 ∧
      ((∀ policy i j, ChangesAt removedBeforeContext mixedHistory policy i →
          ChangesAt removedBeforeContext mixedHistory policy j → i = j) ∧
        ∀ policy i j, ChangesAt removedBeforeContext mixedHistory .baseline i → i < j →
          ¬ ChangesAt removedBeforeContext mixedHistory policy j) := by
  have hplain : ∀ r ∈ mixedHistory, r.IsPlain := by
    unfold Revision.IsPlain
    decide
  exact ⟨hplain, ⟨_, rfl, rfl, by decide⟩, ⟨_, rfl, rfl, by decide +kernel⟩,
    history_converges hplain⟩

end FencedDiff
