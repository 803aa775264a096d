import FencedDiff.Toml.Quotation

/-!
# Words and numbers

A word in which nothing is escaped is read between quotation marks as it is, and a number is
read from its decimal digits. The reader cuts a piece off the text before it asks what the
piece means, so there are two results for each: where it ends (`quotation?_word`,
`cutScalar_digits`) and what it means (`text_word`, `scalar?_toDigits`).
-/

namespace FencedDiff.Toml

/-! ### Words between quotation marks -/

section Word

variable {cs : List Char}

/-- No character of the word means anything but itself between quotation marks. -/
def IsPlainWord (cs : List Char) : Prop := ∀ c ∈ cs, c ≠ '"' ∧ c ≠ '\\' ∧ isForbidden c = false

theorem isPlainWord_cons {c : Char} : IsPlainWord (c :: cs) ↔
    (c ≠ '"' ∧ c ≠ '\\' ∧ isForbidden c = false) ∧ IsPlainWord cs :=
  List.forall_mem_cons

theorem cutShort_word (h : IsPlainWord cs) (done rest : List Char) :
    cutShort '"' done (cs ++ '"' :: rest) = (done.reverse ++ cs ++ ['"'], rest) := by
  induction cs generalizing done with
  | nil =>
      unfold cutShort
      simp
  | cons c cs ih =>
      obtain ⟨⟨hmark, hescape, hforbidden⟩, hcs⟩ := isPlainWord_cons.1 h
      have hnewline : c ≠ '\n' := by
        rintro rfl
        cases hforbidden
      rw [List.cons_append, cutShort.eq_def]
      dsimp only
      rw [if_neg hnewline, if_neg hmark, if_neg (by simp [hescape]), ih hcs]
      simp

/-- Two marks at the beginning are no beginning of a longer string if a newline comes next. -/
theorem quotation?_word (h : IsPlainWord cs) (rest : List Char) :
    quotation? ('"' :: (cs ++ '"' :: '\n' :: rest)) =
      some (⟨'"', false, cs ++ ['"']⟩, '\n' :: rest) := by
  have hcut := cutShort_word h [] ('\n' :: rest)
  rw [quotation?.eq_def]
  dsimp only
  rw [if_pos (.inl rfl)]
  split
  · rename_i b c body hbody
    rw [if_neg, hcut]
    · rfl
    · rintro ⟨rfl, rfl⟩
      cases cs with
      | nil => cases hbody
      | cons d cs =>
          rw [List.cons_append, List.cons.injEq] at hbody
          exact (isPlainWord_cons.1 h).1.1 hbody.1
  · rw [hcut]
    rfl

theorem basicText_word (h : IsPlainWord cs) (done : List Char) :
    basicText done cs = .ok (done.reverse ++ cs) := by
  induction cs generalizing done with
  | nil => simp [basicText]
  | cons c cs ih =>
      obtain ⟨⟨_, hescape, hforbidden⟩, hcs⟩ := isPlainWord_cons.1 h
      rw [basicText, if_neg hescape, if_neg (by simp [hforbidden]), ih hcs]
      simp

theorem text_word (h : IsPlainWord cs) :
    Quotation.text ⟨'"', false, cs ++ ['"']⟩ = .ok (String.ofList cs) := by
  have hinner : Quotation.inner? ⟨'"', false, cs ++ ['"']⟩ = some cs := by
    simp [Quotation.inner?]
  rw [Quotation.text, hinner]
  dsimp only
  rw [if_neg (by decide), if_neg (by decide), basicText_word h]
  rfl

end Word

/-! ### Numbers in decimal -/

section Number

variable {cs : List Char} {c : Char}

theorem ne_of_isDigit {d : Char} (h : c.isDigit = true) (hd : d.isDigit = false) : c ≠ d := by
  rintro rfl
  rw [h] at hd
  cases hd

theorem isScalarChar_of_isDigit (h : c.isDigit = true) : isScalarChar c = true := by
  simp [isScalarChar, ne_of_isDigit h]

theorem digitValue?_of_isDigit (h : c.isDigit = true) :
    digitValue? 10 c = some (c.toNat - '0'.toNat) := by
  obtain ⟨hzero, hnine⟩ := Char.isDigit_iff_toNat.1 h
  have hrange : '0' ≤ c ∧ c ≤ '9' := ⟨hzero, hnine⟩
  have hlt : c.toNat - '0'.toNat < 10 := by
    change c.toNat ≤ 57 at hnine
    change c.toNat - 48 < 10
    omega
  simp only [digitValue?, if_pos hrange, if_pos hlt]

theorem digits?_eq_ofDigitChars (h : ∀ c ∈ cs, c.isDigit = true) (hcs : cs ≠ []) (high : Nat) :
    digits? 10 high cs = some (Nat.ofDigitChars 10 cs high) := by
  induction cs generalizing high with
  | nil => exact absurd rfl hcs
  | cons c cs ih =>
      obtain ⟨hc, hall⟩ := List.forall_mem_cons.1 h
      rw [digits?, digitValue?_of_isDigit hc, Nat.ofDigitChars_cons, Nat.mul_comm 10]
      dsimp only
      split
      · rfl
      · exact absurd rfl (ne_of_isDigit (hall _ List.mem_cons_self) rfl)
      · exact ih hall (List.cons_ne_nil _ _) _

theorem partsDigits_of_isDigit {isPart : Char → Bool} (h : ∀ c ∈ cs, c.isDigit = true)
    (before : Bool) : partsDigits isPart before cs = true := by
  induction cs generalizing before with
  | nil => rfl
  | cons c cs ih =>
      obtain ⟨hc, hall⟩ := List.forall_mem_cons.1 h
      unfold partsDigits
      split
      · rfl
      · rename_i hcons
        exact absurd (List.cons.inj hcons).1 (ne_of_isDigit hc rfl)
      · rename_i hcons
        rw [← (List.cons.inj hcons).2]
        exact ih hall _

theorem isDigit_toDigits (n : Nat) : ∀ c ∈ Nat.toDigits 10 n, c.isDigit = true :=
  fun _ => Nat.isDigit_of_mem_toDigits (by decide) (by decide)

theorem exists_toDigits_eq_cons (n : Nat) :
    ∃ c cs, c.isDigit = true ∧ Nat.toDigits 10 n = c :: cs := by
  obtain ⟨c, cs, hcs⟩ := List.exists_cons_of_ne_nil (Nat.toDigits_ne_nil (n := n) (b := 10))
  refine ⟨c, cs, isDigit_toDigits n c ?_, hcs⟩
  rw [hcs]
  exact List.mem_cons_self

/-- A number that is not zero has no zero in front. -/
theorem head?_toDigits_ne_zero {n : Nat} (h : 0 < n) : (Nat.toDigits 10 n).head? ≠ some '0' := by
  induction n using Nat.strongRecOn with
  | ind n ih =>
      rw [Nat.toDigits_eq_if (by decide)]
      split
      · rename_i hlt
        have hdigits : ∀ m < 10, 0 < m → [m.digitChar].head? ≠ some '0' := by
          decide
        exact hdigits n hlt h
      · rename_i hge
        obtain ⟨c, cs, _, hcs⟩ := exists_toDigits_eq_cons (n / 10)
        have hhead := ih (n / 10) (by omega) (by omega)
        rw [hcs] at hhead ⊢
        exact hhead

theorem integer_toDigits (n : Nat) :
    integer 10 false (Nat.toDigits 10 n) = some (.integer n) := by
  have hdigits := isDigit_toDigits n
  rw [integer, if_pos (partsDigits_of_isDigit hdigits false),
    digits?_eq_ofDigitChars hdigits Nat.toDigits_ne_nil,
    Nat.ofDigitChars_toDigits (by decide) (by decide)]
  rfl

theorem numeric?_digits (h : ∀ c ∈ cs, c.isDigit = true)
    (hzero : cs.head? = some '0' → cs.length ≤ 1) (token : List Char) :
    numeric? false token cs = integer 10 false cs := by
  have hrest : cs.dropWhile Char.isDigit = [] := by
    rw [← List.append_nil cs, List.dropWhile_append_of_pos h, List.dropWhile_nil]
  have hlead : (cs.head? == some '0' && decide (1 < cs.length)) = false := by
    rw [Bool.and_eq_false_imp]
    intro hhead
    exact decide_eq_false (Nat.not_lt.2 (hzero (eq_of_beq hhead)))
  rw [numeric?, hrest, hlead]
  rfl

theorem sign_digits (h : ∀ c ∈ cs, c.isDigit = true) : sign cs = (false, cs) := by
  unfold sign
  split
  · exact absurd (h '-' List.mem_cons_self) (by decide)
  · exact absurd (h '+' List.mem_cons_self) (by decide)
  · rfl

theorem scalar?_digits (h : ∀ c ∈ cs, c.isDigit = true) (hcs : cs ≠ []) :
    scalar? cs = numeric? false cs cs := by
  have hforeign : ∀ c, c.isDigit = false → c ∉ cs := by
    intro c hc hmem
    rw [h c hmem] at hc
    cases hc
  have hsign := sign_digits h
  -- Every other kind of scalar begins with a character, or has one after a zero, that is no digit.
  unfold scalar?
  rw [if_neg (by rintro rfl; exact hforeign 't' rfl (by decide)),
    if_neg (by rintro rfl; exact hforeign 'f' rfl (by decide))]
  split
  · exact absurd (by simp) (hforeign 'x' rfl)
  · exact absurd (by simp) (hforeign 'o' rfl)
  · exact absurd (by simp) (hforeign 'b' rfl)
  · rw [hsign]
    dsimp only
    split
    · exact absurd (by simp) (hforeign 'i' rfl)
    · exact absurd (by simp) (hforeign 'n' rfl)
    · exact absurd rfl hcs
    · rw [h _ List.mem_cons_self]
      rfl

/-- The digits of a number are read as that number. -/
theorem scalar?_toDigits (n : Nat) : scalar? (Nat.toDigits 10 n) = some (.integer n) := by
  have hdigits := isDigit_toDigits n
  have hzero : (Nat.toDigits 10 n).head? = some '0' → (Nat.toDigits 10 n).length ≤ 1 := by
    intro hhead
    rcases Nat.eq_zero_or_pos n with rfl | hpos
    · decide
    · exact absurd hhead (head?_toDigits_ne_zero hpos)
  rw [← integer_toDigits n, ← numeric?_digits hdigits hzero (Nat.toDigits 10 n)]
  exact scalar?_digits hdigits Nat.toDigits_ne_nil

theorem cutScalar_digits (h : ∀ c ∈ cs, c.isDigit = true) (done rest : List Char) :
    cutScalar done (cs ++ '\n' :: rest) = (done.reverse ++ cs, '\n' :: rest) := by
  induction cs generalizing done with
  | nil => simp [cutScalar, isScalarChar]
  | cons c cs ih =>
      obtain ⟨hc, hall⟩ := List.forall_mem_cons.1 h
      rw [List.cons_append, cutScalar, if_pos (isScalarChar_of_isDigit hc), ih hall]
      simp

end Number

end FencedDiff.Toml
