import FencedDiff.Except
import FencedDiff.Fence.Block
import FencedDiff.Fence.Cursor
import FencedDiff.Fence.Signature

/-!
# Scanning with backtracking

The backtracking scanner reads bytes by the grammar

    document = (any byte | block)*
    block    = opening body-line* closing
    opening  = spaces, three backticks, `diff`, rest of the line, newline
    closing  = spaces, three backticks, blanks, carriage returns, newline or end

A block is tried at each start of a line. When the attempt fails the cursor returns there and moves
on by one byte. Each byte read costs one step, also when the cursor returns later; a scan that would
need more than `limit` steps stops. Steps are charged before the bytes are read, so a state never
has more than `limit` steps.
-/

namespace FencedDiff

open Bytes

structure LimitExceeded where
  steps : Nat
  limit : Nat
  deriving DecidableEq, Repr

def LimitExceeded.message (e : LimitExceeded) : String :=
  "scan stopped after " ++ toString e.steps ++ " steps (limit " ++ toString e.limit ++ ")"

namespace Backtracking

/-- A scan in progress: its place, and the steps it has taken. -/
structure Progress where
  cursor : Cursor
  steps : Nat := 0
  deriving DecidableEq, Repr

/-- Takes `n` steps. A step over a byte moves the cursor; one at the end is only charged. The step
after the last that is granted fails. -/
def Progress.advance (limit n : Nat) (p : Progress) : Except LimitExceeded Progress :=
  if p.steps + n ≤ limit then .ok ⟨p.cursor.skip n, p.steps + n⟩
  else .error ⟨limit + 1, limit⟩

/-- Returns to a place; the steps stay charged. -/
def Progress.returnTo (p : Progress) (c : Cursor) : Progress := { p with cursor := c }

@[simp] theorem Progress.cursor_returnTo (p : Progress) (c : Cursor) :
    (p.returnTo c).cursor = c := rfl

theorem Progress.advance_eq_ok_iff {limit n : Nat} {p q : Progress} :
    p.advance limit n = .ok q ↔
      p.steps + n ≤ limit ∧ q = ⟨p.cursor.skip n, p.steps + n⟩ := by
  unfold Progress.advance
  split
  · simp_all [eq_comm]
  · simp only [reduceCtorEq, false_iff, not_and]
    omega

/-- Reads the rest of an opening fence behind its tag, which has to end in a newline. -/
def tryOpenLine (limit indent : Nat) (p : Progress) :
    Except LimitExceeded (Progress × Option Nat) := do
  let p ← p.advance limit (p.cursor.run (· != newline))
  if p.cursor.atEnd then return (p, none)
  else
    let p ← p.advance limit 1
    return (p, some indent)

/-- Reads the rest of an opening fence behind its backticks. -/
def tryOpenTag (limit indent : Nat) (p : Progress) :
    Except LimitExceeded (Progress × Option Nat) :=
  if p.cursor.startsWith tag then p.advance limit tag.length >>= tryOpenLine limit indent
  else return (p, none)

/-- Reads the rest of an opening fence behind its spaces. -/
def tryOpenTicks (limit indent : Nat) (p : Progress) :
    Except LimitExceeded (Progress × Option Nat) :=
  if p.cursor.startsWith ticks then p.advance limit ticks.length >>= tryOpenTag limit indent
  else return (p, none)

/-- Reads an opening fence and answers its indentation. -/
def tryOpen (limit : Nat) (p : Progress) : Except LimitExceeded (Progress × Option Nat) :=
  let indent := p.cursor.run (· == space)
  p.advance limit indent >>= tryOpenTicks limit indent

/-- Reads a newline; answers whether there was one or the text ends here. -/
def tryLineEnd (limit : Nat) (p : Progress) : Except LimitExceeded (Progress × Bool) := do
  if p.cursor.atEnd then return (p, true)
  else if p.cursor.startsWith [newline] then
    let p ← p.advance limit 1
    return (p, true)
  else return (p, false)

/-- Reads the rest of a closing fence behind its backticks. -/
def tryCloseLine (limit : Nat) (p : Progress) : Except LimitExceeded (Progress × Bool) := do
  let p ← p.advance limit (p.cursor.run isBlankByte)
  let p ← p.advance limit (p.cursor.run (· == carriageReturn))
  tryLineEnd limit p

/-- Reads the rest of a closing fence behind its spaces. -/
def tryCloseTicks (limit : Nat) (p : Progress) : Except LimitExceeded (Progress × Bool) :=
  if p.cursor.startsWith ticks then p.advance limit ticks.length >>= tryCloseLine limit
  else return (p, false)

/-- Reads a closing fence; answers whether there was one, and returns to the start if not. -/
def tryClose (limit : Nat) (start : Progress) : Except LimitExceeded (Progress × Bool) := do
  let p ← start.advance limit (start.cursor.run (· == space))
  let (p, found) ← tryCloseTicks limit p
  return (if found then p else p.returnTo start.cursor, found)

/-- Reads the rest of a line and its newline. Where the text ends without one, finding that out
costs a step of its own. -/
def skipLine (limit : Nat) (p : Progress) : Except LimitExceeded Progress :=
  p.advance limit (p.cursor.run (· != newline) + 1)

theorem length_rest_of_advance {limit n : Nat} {p q : Progress} (h : p.advance limit n = .ok q) :
    q.cursor.rest.length ≤ p.cursor.rest.length := by
  rw [Progress.advance_eq_ok_iff] at h
  rw [h.2, Cursor.length_rest_skip]
  exact Nat.sub_le _ _

theorem length_rest_of_advance_succ {limit n : Nat} {p q : Progress}
    (h : p.advance limit (n + 1) = .ok q) (hne : p.cursor.atEnd = false) :
    q.cursor.rest.length < p.cursor.rest.length := by
  rw [Progress.advance_eq_ok_iff] at h
  rw [h.2, Cursor.length_rest_skip]
  have : p.cursor.rest.length ≠ 0 := by
    simpa [Cursor.atEnd] using hne
  omega

theorem cursor_of_tryClose_false {limit : Nat} {p q : Progress}
    (h : tryClose limit p = .ok (q, false)) : q.cursor = p.cursor := by
  rw [tryClose] at h
  obtain ⟨p₁, _, h⟩ := bind_eq_ok_iff.1 h
  obtain ⟨⟨p₂, found⟩, _, h⟩ := bind_eq_ok_iff.1 h
  cases h
  rfl

theorem length_rest_of_skipLine {limit : Nat} {p q : Progress} (h : skipLine limit p = .ok q)
    (hne : p.cursor.atEnd = false) : q.cursor.rest.length < p.cursor.rest.length :=
  length_rest_of_advance_succ h hne

/-- Reads body lines up to a closing fence and over it; answers where the fence's line starts, and
its number. At the end of the text there is no closing fence. -/
def findClose (limit : Nat) (p : Progress) :
    Except LimitExceeded (Progress × Option (Nat × Nat)) :=
  if _hne : p.cursor.atEnd then .ok (p, none)
  else
    match _hc : tryClose limit p with
    | .error e => .error e
    | .ok (q, true) => .ok (q, some (p.cursor.pos, p.cursor.line))
    | .ok (q, false) =>
      match _hs : skipLine limit q with
      | .error e => .error e
      | .ok r => findClose limit r
termination_by p.cursor.rest.length
decreasing_by
  have hq := cursor_of_tryClose_false _hc
  have := length_rest_of_skipLine _hs (by rw [hq]; simpa using _hne)
  rwa [hq] at this

/-- Reads a whole block; returns to the start if there is none. -/
def tryBlock (limit : Nat) (start : Progress) :
    Except LimitExceeded (Progress × Option Block) := do
  let (p, indent?) ← tryOpen limit start
  match indent? with
  | none => return (p.returnTo start.cursor, none)
  | some indent =>
    let (q, close?) ← findClose limit p
    match close? with
    | none => return (q.returnTo start.cursor, none)
    | some (closeStart, closeLine) =>
      return (q, some
        { span := ⟨start.cursor.pos, q.cursor.pos⟩
          body := ⟨p.cursor.pos, closeStart⟩
          startLine := start.cursor.line
          endLine := closeLine
          indent })

theorem length_rest_of_tryOpenLine_some {limit indent n : Nat} {p q : Progress}
    (h : tryOpenLine limit indent p = .ok (q, some n)) :
    q.cursor.rest.length < p.cursor.rest.length := by
  rw [tryOpenLine] at h
  obtain ⟨p₁, h₁, h⟩ := bind_eq_ok_iff.1 h
  rw [← ite_not] at h
  obtain ⟨hne, h⟩ := of_ite_eq_ok h (by simp)
  obtain ⟨p₂, h₂, h⟩ := bind_eq_ok_iff.1 h
  cases h
  have hlt := length_rest_of_advance_succ h₂ (by simpa using hne)
  exact Nat.lt_of_lt_of_le hlt (length_rest_of_advance h₁)

theorem length_rest_of_tryOpen_some {limit : Nat} {p q : Progress} {n : Nat}
    (h : tryOpen limit p = .ok (q, some n)) :
    q.cursor.rest.length < p.cursor.rest.length := by
  rw [tryOpen] at h
  obtain ⟨p₁, h₁, h⟩ := bind_eq_ok_iff.1 h
  obtain ⟨_, h⟩ := of_ite_eq_ok h (by simp)
  obtain ⟨p₂, h₂, h⟩ := bind_eq_ok_iff.1 h
  obtain ⟨_, h⟩ := of_ite_eq_ok h (by simp)
  obtain ⟨p₃, h₃, h⟩ := bind_eq_ok_iff.1 h
  calc q.cursor.rest.length
    _ < p₃.cursor.rest.length := length_rest_of_tryOpenLine_some h
    _ ≤ p₂.cursor.rest.length := length_rest_of_advance h₃
    _ ≤ p₁.cursor.rest.length := length_rest_of_advance h₂
    _ ≤ p.cursor.rest.length := length_rest_of_advance h₁

theorem length_rest_of_tryLineEnd {limit : Nat} {p q : Progress}
    (h : tryLineEnd limit p = .ok (q, true)) : q.cursor.rest.length ≤ p.cursor.rest.length := by
  rw [tryLineEnd] at h
  split at h
  · cases h
    exact Nat.le_refl _
  · obtain ⟨_, h⟩ := of_ite_eq_ok h (by simp)
    obtain ⟨p₁, h₁, h⟩ := bind_eq_ok_iff.1 h
    cases h
    exact length_rest_of_advance h₁

theorem length_rest_of_tryClose {limit : Nat} {p q : Progress}
    (h : tryClose limit p = .ok (q, true)) : q.cursor.rest.length ≤ p.cursor.rest.length := by
  rw [tryClose] at h
  obtain ⟨p₁, h₁, h⟩ := bind_eq_ok_iff.1 h
  obtain ⟨⟨p₂, found⟩, hticks, h⟩ := bind_eq_ok_iff.1 h
  cases h
  obtain ⟨_, hline⟩ := of_ite_eq_ok hticks (by simp)
  obtain ⟨p₃, h₃, hline⟩ := bind_eq_ok_iff.1 hline
  obtain ⟨p₄, h₄, hline⟩ := bind_eq_ok_iff.1 hline
  obtain ⟨p₅, h₅, hend⟩ := bind_eq_ok_iff.1 hline
  calc p₂.cursor.rest.length
    _ ≤ p₅.cursor.rest.length := length_rest_of_tryLineEnd hend
    _ ≤ p₄.cursor.rest.length := length_rest_of_advance h₅
    _ ≤ p₃.cursor.rest.length := length_rest_of_advance h₄
    _ ≤ p₁.cursor.rest.length := length_rest_of_advance h₃
    _ ≤ p.cursor.rest.length := length_rest_of_advance h₁

theorem length_rest_of_findClose {limit : Nat} {p q : Progress} {r : Option (Nat × Nat)}
    (h : findClose limit p = .ok (q, r)) : q.cursor.rest.length ≤ p.cursor.rest.length := by
  fun_induction findClose limit p with
  | case1 p _ =>
    simp only [Except.ok.injEq, Prod.mk.injEq] at h
    exact h.1 ▸ Nat.le_refl _
  | case2 => simp at h
  | case3 p _ q' hc =>
    simp only [Except.ok.injEq, Prod.mk.injEq] at h
    rw [← h.1]
    exact length_rest_of_tryClose hc
  | case4 => simp at h
  | case5 p hne q' hc r' hs ih =>
    have hq := cursor_of_tryClose_false hc
    have := length_rest_of_skipLine hs (by rw [hq]; simpa using hne)
    rw [hq] at this
    exact Nat.le_trans (ih h) (Nat.le_of_lt this)

theorem cursor_of_tryBlock_none {limit : Nat} {p q : Progress}
    (h : tryBlock limit p = .ok (q, none)) : q.cursor = p.cursor := by
  rw [tryBlock] at h
  obtain ⟨⟨p₁, indent?⟩, _, h⟩ := bind_eq_ok_iff.1 h
  cases indent? with
  | none =>
    cases h
    rfl
  | some n =>
    obtain ⟨⟨p₂, close?⟩, _, h⟩ := bind_eq_ok_iff.1 h
    cases close? with
    | none =>
      cases h
      rfl
    | some close => cases h

theorem length_rest_of_tryBlock_some {limit : Nat} {p q : Progress} {b : Block}
    (h : tryBlock limit p = .ok (q, some b)) :
    q.cursor.rest.length < p.cursor.rest.length := by
  rw [tryBlock] at h
  obtain ⟨⟨p₁, indent?⟩, hopen, h⟩ := bind_eq_ok_iff.1 h
  cases indent? with
  | none => cases h
  | some n =>
    obtain ⟨⟨p₂, close?⟩, hclose, h⟩ := bind_eq_ok_iff.1 h
    cases close? with
    | none => cases h
    | some close =>
      cases h
      exact Nat.lt_of_le_of_lt (length_rest_of_findClose hclose)
        (length_rest_of_tryOpen_some hopen)

/-- Scans the rest of a document, after the blocks `found`. -/
def scanFrom (limit : Nat) (found : Array Block) (p : Progress) :
    Except LimitExceeded (Array Block) :=
  if _hne : p.cursor.atEnd then .ok found
  else if p.cursor.atLineStart then
    match _hb : tryBlock limit p with
    | .error e => .error e
    | .ok (q, some block) => scanFrom limit (found.push block) q
    | .ok (q, none) =>
      match _ha : q.advance limit 1 with
      | .error e => .error e
      | .ok r => scanFrom limit found r
  else
    match _ha : p.advance limit 1 with
    | .error e => .error e
    | .ok q => scanFrom limit found q
termination_by p.cursor.rest.length
decreasing_by
  · exact length_rest_of_tryBlock_some _hb
  · have hq := cursor_of_tryBlock_none _hb
    have := length_rest_of_advance_succ _ha (by rw [hq]; simpa using _hne)
    rwa [hq] at this
  · exact length_rest_of_advance_succ _ha (by simpa using _hne)

end Backtracking

/-- The blocks of a document, found by backtracking within `limit` steps. -/
def scanBacktracking (text : Bytes) (limit : Nat) : Except LimitExceeded (List Block) :=
  (Backtracking.scanFrom limit #[] { cursor := Cursor.ofText text }).map Array.toList

end FencedDiff
