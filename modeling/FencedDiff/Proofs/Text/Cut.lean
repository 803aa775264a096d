import FencedDiff.Text.Line

/-!
# Cut texts

`splitLines` cuts a text into lines that are not empty and of which each, the
last apart, ends in its only newline. Such a list is called cut. The lines of
a text concatenate to the text (`flatten_splitLines`), and a cut list is what
its concatenation is cut into (`splitLines_flatten`), so a text that is put
together from such lines is read back line by line.

Being cut is an inductive predicate on the list rather than a condition on its
indices: the proofs about scanners go down the list with it.
-/

namespace FencedDiff

open Bytes

/-- The only newline of the line is its last byte. -/
def EndsInNewline (line : Bytes) : Prop :=
  ∃ body, newline ∉ body ∧ line = body ++ [newline]

/-- A list of lines such as a text is cut into. Only the last line may lack a
newline, and no line is empty. -/
inductive IsCut : List Bytes → Prop
  | nil : IsCut []
  | last {line : Bytes} (h : newline ∉ line) (hne : line ≠ []) : IsCut [line]
  | cons {line : Bytes} {rest : List Bytes} (h : EndsInNewline line)
      (hrest : IsCut rest) : IsCut (line :: rest)

theorem EndsInNewline.ne_nil {line : Bytes} (h : EndsInNewline line) :
    line ≠ [] := by
  obtain ⟨body, _, rfl⟩ := h
  simp

theorem EndsInNewline.getLast? {line : Bytes} (h : EndsInNewline line) :
    line.getLast? = some newline := by
  obtain ⟨body, _, rfl⟩ := h
  simp

theorem EndsInNewline.count_newline {line : Bytes} (h : EndsInNewline line) :
    line.count newline = 1 := by
  obtain ⟨body, hbody, rfl⟩ := h
  simp [List.count_eq_zero_of_not_mem hbody]

/-- Every text is cut, and nothing of it is lost. -/
theorem isCut_splitLines (text : Bytes) :
    IsCut (splitLines text) ∧ (splitLines text).flatten = text := by
  -- the length goes down from line to line
  induction hn : text.length using Nat.strongRecOn generalizing text with
  | ind n ih =>
      by_cases h : newline ∈ text
      · obtain ⟨pre, rest, rfl, hpre⟩ := List.eq_append_cons_of_mem h
        have hlt : rest.length < n := by
          rw [← hn, List.length_append, List.length_cons]
          omega
        obtain ⟨hcut, hflat⟩ := ih rest.length hlt rest rfl
        rw [splitLines_append_newline hpre]
        refine ⟨.cons ⟨pre, hpre, rfl⟩ hcut, ?_⟩
        rw [List.flatten_cons, hflat]
        simp
      · by_cases hne : text = []
        · rw [hne]
          exact ⟨.nil, rfl⟩
        · rw [splitLines_of_not_mem h hne]
          exact ⟨.last h hne, by simp⟩

theorem flatten_splitLines (text : Bytes) : (splitLines text).flatten = text :=
  (isCut_splitLines text).2

namespace IsCut

/-- A cut list is what its concatenation is cut into. -/
theorem splitLines_flatten {lines : List Bytes} (h : IsCut lines) :
    splitLines lines.flatten = lines := by
  induction h with
  | nil => rfl
  | last h hne => simpa using splitLines_of_not_mem h hne
  | @cons line rest h hrest ih =>
      obtain ⟨body, hbody, rfl⟩ := h
      rw [List.flatten_cons, List.append_assoc, List.singleton_append,
        splitLines_append_newline hbody, ih]

theorem tail {line : Bytes} {rest : List Bytes} (h : IsCut (line :: rest)) :
    IsCut rest := by
  cases h with
  | last h hne => exact .nil
  | cons h hrest => exact hrest

theorem endsInNewline_head {line next : Bytes} {rest : List Bytes}
    (h : IsCut (line :: next :: rest)) : EndsInNewline line := by
  cases h with
  | cons h hrest => exact h

/-- A line whose last byte is a newline has no other. -/
theorem endsInNewline_of_getLast? {line : Bytes} {rest : List Bytes}
    (h : IsCut (line :: rest)) (hlast : line.getLast? = some newline) :
    EndsInNewline line := by
  cases h with
  | last h hne => exact absurd (List.mem_of_getLast? hlast) h
  | cons h hrest => exact h

theorem ne_nil {lines : List Bytes} (h : IsCut lines) :
    ∀ line ∈ lines, line ≠ [] := by
  induction h with
  | nil => simp
  | last h hne => simpa using hne
  | cons h hrest ih => simpa using ⟨h.ne_nil, ih⟩

/-- A list is cut at any place: the lines before it end in a newline. -/
theorem append_cons_iff {before after : List Bytes} {line : Bytes} :
    IsCut (before ++ line :: after) ↔
      (∀ l ∈ before, EndsInNewline l) ∧ IsCut (line :: after) := by
  induction before with
  | nil => simp
  | cons l before ih =>
      rw [List.forall_mem_cons, and_assoc, ← ih, List.cons_append]
      constructor
      · intro h
        obtain ⟨next, rest, hnext⟩ : ∃ next rest,
            before ++ line :: after = next :: rest := by
          cases before <;> simp
        exact ⟨endsInNewline_head (hnext ▸ h), h.tail⟩
      · exact fun h => .cons h.1 h.2

/-- A line with another one somewhere behind it ends in a newline. -/
theorem endsInNewline_before {line next : Bytes} {between rest : List Bytes}
    (h : IsCut (line :: (between ++ next :: rest))) : EndsInNewline line := by
  have hlines : IsCut ((line :: between) ++ next :: rest) := h
  exact (append_cons_iff.1 hlines).1 line List.mem_cons_self

theorem append {before after : List Bytes}
    (hbefore : ∀ l ∈ before, EndsInNewline l) (h : IsCut after) :
    IsCut (before ++ after) := by
  induction before with
  | nil => exact h
  | cons l before ih =>
      rw [List.forall_mem_cons] at hbefore
      exact .cons hbefore.1 (ih hbefore.2)

theorem init {before after : List Bytes} {line : Bytes}
    (h : IsCut (before ++ line :: after)) : IsCut before := by
  simpa using append (append_cons_iff.1 h).1 .nil

theorem of_append {before after : List Bytes} (h : IsCut (before ++ after)) :
    IsCut after := by
  induction before with
  | nil => exact h
  | cons l before ih => exact ih h.tail

/-- A line is a run without newline, and what comes after the run is a newline
or the end of the text. -/
theorem exists_run {line : Bytes} {rest : List Bytes} (h : IsCut (line :: rest)) :
    ∃ run stop, newline ∉ run ∧ line = run ++ stop ∧
      (stop = [newline] ∨ stop = [] ∧ rest = []) := by
  cases h with
  | last h hne => exact ⟨line, [], h, by simp, .inr ⟨rfl, rfl⟩⟩
  | cons h hrest =>
      obtain ⟨body, hbody, rfl⟩ := h
      exact ⟨body, [newline], hbody, rfl, .inl rfl⟩

end IsCut

/-- Cut lists are told apart by their concatenations. -/
theorem IsCut.flatten_inj {a b : List Bytes} (ha : IsCut a) (hb : IsCut b) :
    a.flatten = b.flatten ↔ a = b := by
  constructor
  · intro h
    rw [← ha.splitLines_flatten, h, hb.splitLines_flatten]
  · rintro rfl
    rfl

/-- A text is cut in one way only. -/
theorem eq_splitLines_iff {lines : List Bytes} {text : Bytes} :
    lines = splitLines text ↔ IsCut lines ∧ lines.flatten = text := by
  constructor
  · rintro rfl
    exact isCut_splitLines text
  · rintro ⟨hcut, rfl⟩
    exact hcut.splitLines_flatten.symm

theorem splitLines_inj {a b : Bytes} : splitLines a = splitLines b ↔ a = b := by
  rw [← (isCut_splitLines a).1.flatten_inj (isCut_splitLines b).1, flatten_splitLines,
    flatten_splitLines]

end FencedDiff
