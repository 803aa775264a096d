import FencedDiff.Proofs.Text.Decoding

/-!
# Where a preview is cut

In UTF-8 the places between characters are told by the byte that follows. They are the places
where a text falls into two texts (`isCharBoundary_iff_isText_take`). So the last of them up to
a place is the end of the longest row of whole characters up to it, and as no character has
more than four bytes, it is at most three bytes away.

`BacksOff` moves a cut back one byte at a time and counts the steps. It has no step down from
zero, so a run of it that ends has not gone below. The main statement is `preview_cuts`.
-/

namespace FencedDiff

open Bytes

namespace Utf8

theorem isContinuation_tail : ∀ t < 64, isContinuation (UInt8.ofNat (t + 0x80)) = true := by
  decide

/-- The first byte of a character is followed by up to three bytes that continue it. -/
theorem Spells.exists_cons {n : Nat} {s : Bytes} (h : Spells n s) :
    ∃ b tails, s = b :: tails ∧ (∀ t ∈ tails, isContinuation t = true) ∧ tails.length ≤ 3 := by
  cases h with
  | one hk => exact ⟨_, [], rfl, by simp, by simp⟩
  | two hk ht =>
      refine ⟨_, _, rfl, ?_, by simp⟩
      rw [List.forall_mem_singleton]
      exact isContinuation_tail _ ht
  | three hk ht hu _ _ =>
      refine ⟨_, _, rfl, ?_, by simp⟩
      rw [List.forall_mem_cons, List.forall_mem_singleton]
      exact ⟨isContinuation_tail _ ht, isContinuation_tail _ hu⟩
  | four hk ht hu hv _ _ =>
      refine ⟨_, _, rfl, ?_, by simp⟩
      rw [List.forall_mem_cons, List.forall_mem_cons, List.forall_mem_singleton]
      exact ⟨isContinuation_tail _ ht, isContinuation_tail _ hu, isContinuation_tail _ hv⟩

theorem Spells.isText_append {n : Nat} {s t : Bytes} (h : Spells n s) (ht : IsText t) :
    IsText (s ++ t) := by
  obtain ⟨b, tails, rfl, _⟩ := h.exists_cons
  obtain ⟨l, hlead, htails⟩ := exists_lead?_iff.2 ⟨_, h, rfl⟩
  exact .char hlead htails ht

/-- A text is taken apart character by character. -/
@[elab_as_elim]
theorem IsText.spells_induction {motive : ∀ s, IsText s → Prop} (nil : motive [] .nil)
    (character : ∀ {n : Nat} {s t : Bytes} (hs : Spells n s) (ht : IsText t),
      motive t ht → motive (s ++ t) (hs.isText_append ht))
    {s : Bytes} (h : IsText s) : motive s h := by
  induction h with
  | nil => exact nil
  | @char b l rest after code hlead htails hafter ih =>
      obtain ⟨s, hspells, hs⟩ := exists_lead?_iff.1 ⟨l, hlead, htails⟩
      have hmotive : ∀ {u : Bytes} (hu : u = s ++ after) (htext : IsText u), motive u htext := by
        rintro _ rfl _
        exact character hspells hafter ih
      exact hmotive hs _

/-- What follows a text within a text is a text. -/
theorem IsText.of_append {s t : Bytes} (hs : IsText s) (h : IsText (s ++ t)) : IsText t := by
  induction hs with
  | nil => exact h
  | char hlead htails hafter ih =>
      cases h with
      | char hlead' htails' hafter' =>
          cases hlead.symm.trans hlead'
          cases (readTails_append htails t).symm.trans htails'
          exact ih hafter'

theorem IsText.isContinuation_head {b : UInt8} {s : Bytes} (h : IsText (b :: s)) :
    isContinuation b = false := by
  cases h with
  | char hlead htails hafter => exact (isContinuation_of_lead? hlead).1

end Utf8

open Utf8

/-! ### Places between characters -/

section Boundary

variable {s t : Bytes} {m n : Nat}

theorem isCharBoundary_zero (s : Bytes) : isCharBoundary s 0 = true := by
  simp [isCharBoundary]

theorem isCharBoundary_succ_iff :
    isCharBoundary s (n + 1) = true ↔
      (∃ b, s[n + 1]? = some b ∧ isContinuation b = false) ∨ n + 1 = s.length := by
  rw [isCharBoundary]
  cases hb : s[n + 1]? with
  | none => simp
  | some b =>
      have hlt : n + 1 < s.length := (List.getElem?_eq_some_iff.1 hb).1
      simp [Nat.ne_of_lt hlt]

theorem le_length_of_isCharBoundary (h : isCharBoundary s n = true) : n ≤ s.length := by
  cases n with
  | zero => exact Nat.zero_le _
  | succ n =>
      rcases isCharBoundary_succ_iff.1 h with ⟨b, hb, _⟩ | hlength
      · exact Nat.le_of_lt (List.getElem?_eq_some_iff.1 hb).1
      · exact Nat.le_of_eq hlength

/-- The end of a text within a text lies between characters. -/
theorem isCharBoundary_length_append (h : IsText t) :
    isCharBoundary (s ++ t) s.length = true := by
  cases t with
  | nil => simp [isCharBoundary]
  | cons b t => simp [isCharBoundary, h.isContinuation_head]

/-- A place behind `s` is told from what follows `s`. -/
theorem isCharBoundary_append_iff (h : IsText t) :
    isCharBoundary (s ++ t) (s.length + n) = true ↔ isCharBoundary t n = true := by
  cases n with
  | zero => exact iff_of_true (isCharBoundary_length_append h) (isCharBoundary_zero t)
  | succ n =>
      rw [← Nat.add_assoc, isCharBoundary_succ_iff, isCharBoundary_succ_iff, Nat.add_assoc,
        List.getElem?_append_right (Nat.le_add_right _ _), Nat.add_sub_cancel_left,
        List.length_append, Nat.add_left_cancel_iff]

/-- No place within a character lies between characters. -/
theorem isCharBoundary_within (h : Spells m s) (hn : n + 1 < s.length) :
    isCharBoundary (s ++ t) (n + 1) = false := by
  obtain ⟨b, tails, rfl, htails, _⟩ := h.exists_cons
  have hn' : n < tails.length := Nat.lt_of_succ_lt_succ hn
  rw [← Bool.not_eq_true, isCharBoundary_succ_iff]
  rintro (⟨c, hc, hfalse⟩ | hlength)
  · rw [List.cons_append, List.getElem?_cons_succ, List.getElem?_append_left hn'] at hc
    rw [htails c (List.mem_of_getElem? hc)] at hfalse
    cases hfalse
  · rw [List.length_append] at hlength
    omega

/-- At a place between characters, a text falls into two texts. -/
theorem isText_take_drop (h : IsText s) (hn : isCharBoundary s n = true) :
    IsText (s.take n) ∧ IsText (s.drop n) := by
  induction h using IsText.spells_induction generalizing n with
  | nil => simp [IsText.nil]
  | @character m s t hs ht ih =>
      cases n with
      | zero => exact ⟨.nil, hs.isText_append ht⟩
      | succ n =>
          rcases Nat.lt_or_ge (n + 1) s.length with hlt | hle
          · rw [isCharBoundary_within hs hlt] at hn
            cases hn
          · obtain ⟨k, hk⟩ := Nat.exists_eq_add_of_le hle
            rw [hk] at hn ⊢
            obtain ⟨htake, hdrop⟩ := ih ((isCharBoundary_append_iff ht).1 hn)
            rw [List.take_length_add_append, List.drop_length_add_append]
            exact ⟨hs.isText_append htake, hdrop⟩

/-- The places between the characters of a text are those up to which it is a text. -/
theorem isCharBoundary_iff_isText_take (h : IsText s) (hn : n ≤ s.length) :
    isCharBoundary s n = true ↔ IsText (s.take n) := by
  constructor
  · exact fun hboundary => (isText_take_drop h hboundary).1
  · intro htake
    have hsplit : IsText (s.take n ++ s.drop n) := by rwa [List.take_append_drop]
    have hboundary := isCharBoundary_length_append (s := s.take n) (htake.of_append hsplit)
    rwa [List.take_append_drop, List.length_take, Nat.min_eq_left hn] at hboundary

/-- A span that begins and ends between characters names a text. -/
theorem isText_slice {span : Span} (h : IsText s) (hle : span.start ≤ span.stop)
    (hstart : isCharBoundary s span.start = true) (hstop : isCharBoundary s span.stop = true) :
    IsText (span.slice s) := by
  have hlength : (s.take span.start).length = span.start := by
    rw [List.length_take, Nat.min_eq_left (le_length_of_isCharBoundary hstart)]
  have hdrop := (isText_take_drop h hstart).2
  have hrest : isCharBoundary (s.drop span.start) span.length = true := by
    rw [← isCharBoundary_append_iff (s := s.take span.start) hdrop]
    rwa [List.take_append_drop, hlength, Span.length, Nat.add_sub_cancel' hle]
  exact (isText_take_drop hdrop hrest).1

/-- Up to three bytes before any place, there is one between characters. -/
theorem exists_isCharBoundary_near (h : IsText s) (hn : n ≤ s.length) :
    ∃ m ≤ n, n ≤ m + 3 ∧ isCharBoundary s m = true := by
  induction h using IsText.spells_induction generalizing n with
  | nil => exact ⟨n, Nat.le_refl n, Nat.le_add_right n 3, by simpa [isCharBoundary] using hn⟩
  | @character k s t hs ht ih =>
      rcases Nat.lt_or_ge n s.length with hlt | hle
      · obtain ⟨b, tails, rfl, _, hlength⟩ := hs.exists_cons
        rw [List.length_cons] at hlt
        exact ⟨0, Nat.zero_le n, by omega, isCharBoundary_zero _⟩
      · obtain ⟨d, rfl⟩ := Nat.exists_eq_add_of_le hle
        rw [List.length_append] at hn
        obtain ⟨m, hm, hnear, hboundary⟩ := ih (Nat.le_of_add_le_add_left hn)
        exact ⟨s.length + m, by omega, by omega, (isCharBoundary_append_iff ht).2 hboundary⟩

end Boundary

/-! ### The cut -/

/-- The loop that moves a cut back out of a character. From the cut it takes a number of steps,
each down by one byte, and ends at the first place between characters. -/
inductive BacksOff (s : Bytes) : Nat → Nat → Nat → Prop
  | stop {cut : Nat} (h : isCharBoundary s cut = true) : BacksOff s cut 0 cut
  | step {cut n final : Nat} (h : isCharBoundary s (cut + 1) = false)
      (hrest : BacksOff s cut n final) : BacksOff s (cut + 1) (n + 1) final

theorem BacksOff.eq_add {s : Bytes} {cut n final : Nat} (h : BacksOff s cut n final) :
    cut = final + n := by
  induction h with
  | stop h => rfl
  | step h hrest ih => rw [ih, Nat.add_assoc]

/-- The loop ends, as zero lies between characters. -/
theorem exists_backsOff_charFloor (s : Bytes) (cut : Nat) :
    ∃ n, BacksOff s cut n (charFloor s cut) := by
  induction cut with
  | zero => exact ⟨0, .stop (isCharBoundary_zero s)⟩
  | succ cut ih =>
      obtain ⟨n, hn⟩ := ih
      rw [charFloor]
      cases h : isCharBoundary s (cut + 1) with
      | true => exact ⟨0, .stop h⟩
      | false => exact ⟨n + 1, .step h hn⟩

/-- The cut is the last place between characters up to where it started. -/
theorem le_charFloor {s : Bytes} {m n : Nat} (hm : isCharBoundary s m = true) (h : m ≤ n) :
    m ≤ charFloor s n := by
  induction n with
  | zero => exact h
  | succ n ih =>
      rw [charFloor]
      split
      · exact h
      · rename_i hn
        have hne : m ≠ n + 1 := fun heq => hn (heq ▸ hm)
        exact ih (by omega)

/-- The bytes are a beginning of `s` that is made of whole characters and not longer than
`max`. -/
structure Fits (max : Nat) (s kept : Bytes) : Prop where
  isPrefix : kept <+: s
  isText : IsText kept
  length_le : kept.length ≤ max

theorem length_take_charFloor {s : Bytes} {n : Nat} (hn : n ≤ s.length) :
    (s.take (charFloor s n)).length = charFloor s n := by
  rw [List.length_take, Nat.min_eq_left (Nat.le_trans (charFloor_le s n) hn)]

section Fits

variable {max : Nat} {s kept : Bytes}

theorem fits_take_charFloor (h : IsText s) (hmax : max ≤ s.length) :
    Fits max s (s.take (charFloor s max)) where
  isPrefix := List.take_prefix _ s
  isText := (isText_take_drop h (isCharBoundary_charFloor s max)).1
  length_le := by
    rw [length_take_charFloor hmax]
    exact charFloor_le s max

/-- Whatever fits is kept by the cut. -/
theorem Fits.isPrefix_take_charFloor (h : IsText s) (hmax : max ≤ s.length)
    (hkept : Fits max s kept) : kept <+: s.take (charFloor s max) := by
  have htake : kept = s.take kept.length := List.prefix_iff_eq_take.1 hkept.isPrefix
  have hboundary : isCharBoundary s kept.length = true := by
    rw [isCharBoundary_iff_isText_take h hkept.isPrefix.length_le, ← htake]
    exact hkept.isText
  apply List.prefix_of_prefix_length_le hkept.isPrefix (List.take_prefix _ s)
  rw [length_take_charFloor hmax]
  exact le_charFloor hboundary hkept.length_le

end Fits

/-- A preview of a piece of a text, cut out between characters, is the piece if that has at most
`max` bytes. Otherwise it is the longest beginning of the piece that is made of whole characters
within `max` bytes, and three dots; the cut is moved back at most three times, and not below
zero. -/
theorem preview_cuts {text : Bytes} (htext : IsText text) {span : Span}
    (hspan : span.start ≤ span.stop) (hstart : isCharBoundary text span.start = true)
    (hstop : isCharBoundary text span.stop = true) (max : Nat) :
    ((span.slice text).length ≤ max →
      preview max (span.slice text) = span.slice text) ∧
    (max < (span.slice text).length →
      ∃ kept, preview max (span.slice text) = kept ++ encode "..." ∧
        Fits max (span.slice text) kept ∧
        (∀ other, Fits max (span.slice text) other → other <+: kept) ∧
        ∃ n ≤ 3, BacksOff (span.slice text) max n kept.length) := by
  have hslice := isText_slice htext hspan hstart hstop
  generalize span.slice text = s at hslice ⊢
  refine ⟨preview_of_length_le, fun hmax => ?_⟩
  have hle := Nat.le_of_lt hmax
  refine ⟨s.take (charFloor s max), ?_, fits_take_charFloor hslice hle,
    fun other => Fits.isPrefix_take_charFloor hslice hle, ?_⟩
  · rw [preview, if_pos hmax]
    rfl
  · obtain ⟨n, hn⟩ := exists_backsOff_charFloor s max
    obtain ⟨m, hm, hnear, hboundary⟩ := exists_isCharBoundary_near hslice hle
    have hfloor := le_charFloor hboundary hm
    have hsteps := hn.eq_add
    rw [length_take_charFloor hle]
    exact ⟨n, by omega, hn⟩

/-- Characters of one, three, four and again one byte. -/
def longCharacters : Bytes := encode "a€😀b"

/-- A cut before the last byte of a character moves back over the other three. -/
theorem preview_cuts_longCharacters :
    let piece := (⟨1, 9⟩ : Span).slice longCharacters
    preview 6 piece = encode "€" ++ encode "..." ∧ Fits 6 piece (encode "€") ∧
      BacksOff piece 6 3 3 := by
  intro piece
  have hspan : (⟨1, 9⟩ : Span).start ≤ (⟨1, 9⟩ : Span).stop := by decide
  obtain ⟨kept, hpreview, hfits, _, n, _, hn⟩ :=
    (preview_cuts (isText_encode "a€😀b") hspan (by decide) (by decide) 6).2 (by decide)
  have hkept : kept = encode "€" := List.append_cancel_right (hpreview.symm.trans (by decide))
  subst hkept
  obtain rfl : n = 3 := Nat.add_left_cancel hn.eq_add.symm
  exact ⟨hpreview, hfits, hn⟩

end FencedDiff
