import FencedDiff.Proofs.Text.Encoding

/-!
# Decoding inverts encoding

The decoder takes a character apart by tables: what its first byte promises, and in which
bounds the byte after that one has to lie. The other side is the encoding of Lean's strings.
Between the two stands `Spells`, which says byte by byte and bit by bit what the bytes of a
character are. Every character is spelled in exactly one way (`spells_iff`), and a character
is read where bytes spell it (`exists_lead?_iff`).

So the texts are the bytes of strings (`isText_iff_exists_encode`), and they are decoded to
the characters of the string (`decode_encode`).
-/

namespace FencedDiff

namespace Utf8

theorem encode_eq (t : String) : encode t = t.toList.flatMap String.utf8EncodeChar := by
  obtain ⟨cs, rfl⟩ : ∃ cs, t = String.ofList cs := ⟨t.toList, String.ofList_toList.symm⟩
  simp [encode, String.toUTF8, List.utf8Encode]

/-- The bytes spell the code of a character: a leading byte, and continuation bytes with six
bits each. No shorter row of bytes spells the same code, and none a surrogate. -/
inductive Spells : Nat → Bytes → Prop
  | one {k : Nat} (hk : k < 0x80) : Spells k [UInt8.ofNat k]
  | two {k t : Nat} (hk : 2 ≤ k ∧ k < 32) (ht : t < 64) :
      Spells (k * 64 + t) [UInt8.ofNat (k + 0xC0), UInt8.ofNat (t + 0x80)]
  | three {k t u : Nat} (hk : k < 16) (ht : t < 64) (hu : u < 64) (hlong : k = 0 → 32 ≤ t)
      (hsurrogate : k = 13 → t < 32) :
      Spells ((k * 64 + t) * 64 + u)
        [UInt8.ofNat (k + 0xE0), UInt8.ofNat (t + 0x80), UInt8.ofNat (u + 0x80)]
  | four {k t u v : Nat} (hk : k < 5) (ht : t < 64) (hu : u < 64) (hv : v < 64)
      (hlong : k = 0 → 16 ≤ t) (hlast : k = 4 → t < 16) :
      Spells (((k * 64 + t) * 64 + u) * 64 + v)
        [UInt8.ofNat (k + 0xF0), UInt8.ofNat (t + 0x80), UInt8.ofNat (u + 0x80),
          UInt8.ofNat (v + 0x80)]

theorem exists_char {n : Nat} (h : n.isValidChar) : ∃ c : Char, c.toNat = n := by
  refine ⟨Char.ofNat n, ?_⟩
  rw [Char.ofNat, dif_pos h]
  rfl

theorem Spells.isValidChar {n : Nat} {s : Bytes} (h : Spells n s) : n.isValidChar := by
  unfold Nat.isValidChar
  cases h <;> omega

theorem Spells.encodeChar_eq {c : Char} {s : Bytes} (h : Spells c.toNat s) :
    String.utf8EncodeChar c = s := by
  rw [String.utf8EncodeChar, Char.toNat_val]
  generalize c.toNat = n at h
  cases h with
  | one hk => rw [if_pos (by omega)]
  | @two k t hk ht =>
      have h₁ : (k * 64 + t) / 64 % 32 = k := by omega
      have h₂ : (k * 64 + t) % 64 = t := by omega
      rw [if_neg (by omega), if_pos (by omega), h₁, h₂]
  | @three k t u hk ht hu hlong hsurrogate =>
      have h₁ : ((k * 64 + t) * 64 + u) / 4096 % 16 = k := by omega
      have h₂ : ((k * 64 + t) * 64 + u) / 64 % 64 = t := by omega
      have h₃ : ((k * 64 + t) * 64 + u) % 64 = u := by omega
      rw [if_neg (by omega), if_neg (by omega), if_pos (by omega), h₁, h₂, h₃]
  | @four k t u v hk ht hu hv hlong hlast =>
      have h₁ : (((k * 64 + t) * 64 + u) * 64 + v) / 262144 % 8 = k := by omega
      have h₂ : (((k * 64 + t) * 64 + u) * 64 + v) / 4096 % 64 = t := by omega
      have h₃ : (((k * 64 + t) * 64 + u) * 64 + v) / 64 % 64 = u := by omega
      have h₄ : (((k * 64 + t) * 64 + u) * 64 + v) % 64 = v := by omega
      rw [if_neg (by omega), if_neg (by omega), if_neg (by omega), h₁, h₂, h₃, h₄]

theorem exists_spells {n : Nat} (h : n.isValidChar) : ∃ s, Spells n s := by
  unfold Nat.isValidChar at h
  rcases Nat.lt_or_ge n 0x80 with h₁ | h₁
  · exact ⟨_, .one h₁⟩
  · have hsplit : n / 64 * 64 + n % 64 = n := Nat.div_add_mod' n 64
    rcases Nat.lt_or_ge n 0x800 with h₂ | h₂
    · rw [← hsplit]
      exact ⟨_, .two (by omega) (by omega)⟩
    · have hsplit' : n / 64 / 64 * 64 + n / 64 % 64 = n / 64 := Nat.div_add_mod' _ 64
      rcases Nat.lt_or_ge n 0x10000 with h₃ | h₃
      · rw [← hsplit, ← hsplit']
        exact ⟨_, .three (by omega) (by omega) (by omega) (by omega) (by omega)⟩
      · have hsplit'' : n / 64 / 64 / 64 * 64 + n / 64 / 64 % 64 = n / 64 / 64 :=
          Nat.div_add_mod' _ 64
        rw [← hsplit, ← hsplit', ← hsplit'']
        exact ⟨_, .four (by omega) (by omega) (by omega) (by omega) (by omega) (by omega)⟩

theorem spells_iff {n : Nat} {s : Bytes} :
    Spells n s ↔ ∃ c : Char, c.toNat = n ∧ String.utf8EncodeChar c = s := by
  constructor
  · intro h
    obtain ⟨c, rfl⟩ := exists_char h.isValidChar
    exact ⟨c, rfl, h.encodeChar_eq⟩
  · rintro ⟨c, rfl, rfl⟩
    obtain ⟨s, h⟩ := exists_spells c.valid
    rwa [Char.toNat_val, ← h.encodeChar_eq] at h

/-! ### Reading a character -/

theorem lead?_one : ∀ k < 0x80, lead? (UInt8.ofNat k) = some ⟨0, 0x80, 0xBF, k⟩ := by
  decide

theorem lead?_two :
    ∀ k < 32, 2 ≤ k → lead? (UInt8.ofNat (k + 0xC0)) = some ⟨1, 0x80, 0xBF, k⟩ := by
  decide

theorem lead?_three : ∀ k < 16, lead? (UInt8.ofNat (k + 0xE0)) =
    some ⟨2, if k = 0 then 0xA0 else 0x80, if k = 13 then 0x9F else 0xBF, k⟩ := by
  decide

theorem lead?_four : ∀ k < 5, lead? (UInt8.ofNat (k + 0xF0)) =
    some ⟨3, if k = 0 then 0x90 else 0x80, if k = 4 then 0x8F else 0xBF, k⟩ := by
  decide

theorem exists_of_lead? {b : UInt8} {l : Lead} (h : lead? b = some l) :
    (∃ k < 0x80, b = UInt8.ofNat k) ∨ (∃ k < 32, 2 ≤ k ∧ b = UInt8.ofNat (k + 0xC0)) ∨
      (∃ k < 16, b = UInt8.ofNat (k + 0xE0)) ∨ ∃ k < 5, b = UInt8.ofNat (k + 0xF0) := by
  have hb := b.toNat_lt
  have hofNat : ∀ {m}, m ≤ b.toNat → b = UInt8.ofNat (b.toNat - m + m) := by
    intro m hm
    rw [Nat.sub_add_cancel hm, UInt8.ofNat_toNat]
  simp only [lead?, UInt8.lt_iff_toNat_lt, UInt8.reduceToNat] at h
  by_cases h₁ : b.toNat < 128
  · exact .inl ⟨b.toNat, h₁, UInt8.ofNat_toNat.symm⟩
  · rw [if_neg h₁] at h
    by_cases h₂ : b.toNat < 194
    · rw [if_pos h₂] at h
      cases h
    · rw [if_neg h₂] at h
      by_cases h₃ : b.toNat < 224
      · exact .inr (.inl ⟨b.toNat - 192, by omega, by omega, hofNat (by omega)⟩)
      · rw [if_neg h₃] at h
        by_cases h₄ : b.toNat < 240
        · exact .inr (.inr (.inl ⟨b.toNat - 224, by omega, hofNat (by omega)⟩))
        · rw [if_neg h₄] at h
          by_cases h₅ : b.toNat < 245
          · exact .inr (.inr (.inr ⟨b.toNat - 240, by omega, hofNat (by omega)⟩))
          · rw [if_neg h₅] at h
            cases h

section Tails

variable {low high : UInt8} {seen code n c t : Nat} {s after : Bytes}

theorem readTails_zero_eq_ok_iff :
    readTails low high seen code 0 s = .ok (c, after) ↔ code = c ∧ s = after := by
  rw [readTails, Except.ok.injEq, Prod.mk.injEq]

/-- A continuation byte lies within bounds and gives six bits. -/
theorem readTails_succ_eq_ok_iff (hlow : 0x80 ≤ low.toNat) :
    readTails low high seen code (n + 1) s = .ok (c, after) ↔
      ∃ t rest, s = UInt8.ofNat (t + 0x80) :: rest ∧
        (low.toNat ≤ t + 0x80 ∧ t + 0x80 ≤ high.toNat) ∧
        readTails 0x80 0xBF (seen + 1) (code * 64 + t) n rest = .ok (c, after) := by
  have hhigh := high.toNat_lt
  cases s with
  | nil => simp [readTails]
  | cons b rest =>
      rw [readTails]
      simp only [Bool.and_eq_true, decide_eq_true_eq, UInt8.le_iff_toNat_le]
      constructor
      · intro h
        split at h
        · rename_i hb
          refine ⟨b.toNat - 0x80, rest, ?_, by omega, h⟩
          rw [Nat.sub_add_cancel (by omega), UInt8.ofNat_toNat]
        · cases h
      · rintro ⟨t, _, hs, hb, h⟩
        obtain ⟨rfl, rfl⟩ := List.cons.inj hs
        have ht : (UInt8.ofNat (t + 0x80)).toNat = t + 0x80 := by
          rw [UInt8.toNat_ofNat']
          omega
        rw [ht, if_pos hb, Nat.add_sub_cancel]
        exact h

/-- The first continuation byte may be narrowed to bits from `least` on, or below `bound`. -/
theorem readTails_narrow_eq_ok_iff {p q : Prop} [Decidable p] [Decidable q] (least bound : Nat)
    (hlow : low.toNat = least + 0x80) (hhigh : high.toNat + 1 = bound + 0x80)
    (hbound : bound ≤ 64) :
    readTails (if p then low else 0x80) (if q then high else 0xBF) seen code (n + 1) s =
        .ok (c, after) ↔
      ∃ t rest, s = UInt8.ofNat (t + 0x80) :: rest ∧
        (t < 64 ∧ (p → least ≤ t) ∧ (q → t < bound)) ∧
        readTails 0x80 0xBF (seen + 1) (code * 64 + t) n rest = .ok (c, after) := by
  have hleast : (0x80 : UInt8).toNat = 0x80 := rfl
  have hgreatest : (0xBF : UInt8).toNat = 0xBF := rfl
  rw [readTails_succ_eq_ok_iff (by split <;> omega)]
  refine exists_congr fun t => exists_congr fun rest => and_congr_right fun _ =>
    and_congr_left fun _ => ?_
  by_cases hp : p <;> by_cases hq : q <;> simp only [hp, hq, if_true, if_false, true_imp_iff,
    false_imp_iff, and_true, true_and, hleast, hgreatest] <;> omega

theorem readTails_any_eq_ok_iff :
    readTails 0x80 0xBF seen code (n + 1) s = .ok (c, after) ↔
      ∃ t rest, s = UInt8.ofNat (t + 0x80) :: rest ∧ t < 64 ∧
        readTails 0x80 0xBF (seen + 1) (code * 64 + t) n rest = .ok (c, after) := by
  rw [readTails_succ_eq_ok_iff (by decide)]
  refine exists_congr fun t => exists_congr fun rest => and_congr_right fun _ =>
    and_congr_left fun _ => ?_
  change 128 ≤ t + 128 ∧ t + 128 ≤ 191 ↔ t < 64
  omega

end Tails

/-- A character is read where bytes spell its code. -/
theorem exists_lead?_iff {b : UInt8} {rest after : Bytes} {code : Nat} :
    (∃ l, lead? b = some l ∧
        readTails l.low l.high 1 l.bits l.tails rest = .ok (code, after)) ↔
      ∃ s, Spells code s ∧ b :: rest = s ++ after := by
  constructor
  · rintro ⟨l, hlead, htails⟩
    rcases exists_of_lead? hlead with
      ⟨k, hk, rfl⟩ | ⟨k, hk, hk', rfl⟩ | ⟨k, hk, rfl⟩ | ⟨k, hk, rfl⟩
    · rw [lead?_one k hk, Option.some.injEq] at hlead
      subst hlead
      obtain ⟨rfl, rfl⟩ := readTails_zero_eq_ok_iff.1 htails
      exact ⟨_, .one hk, rfl⟩
    · rw [lead?_two k hk hk', Option.some.injEq] at hlead
      subst hlead
      obtain ⟨t, rest, rfl, ht, htails⟩ := readTails_any_eq_ok_iff.1 htails
      obtain ⟨rfl, rfl⟩ := readTails_zero_eq_ok_iff.1 htails
      exact ⟨_, .two ⟨hk', hk⟩ ht, rfl⟩
    · rw [lead?_three k hk, Option.some.injEq] at hlead
      subst hlead
      obtain ⟨t, rest, rfl, ⟨ht, hlong, hsurrogate⟩, htails⟩ :=
        (readTails_narrow_eq_ok_iff 32 32 rfl rfl (by decide)).1 htails
      obtain ⟨u, rest, rfl, hu, htails⟩ := readTails_any_eq_ok_iff.1 htails
      obtain ⟨rfl, rfl⟩ := readTails_zero_eq_ok_iff.1 htails
      exact ⟨_, .three hk ht hu hlong hsurrogate, rfl⟩
    · rw [lead?_four k hk, Option.some.injEq] at hlead
      subst hlead
      obtain ⟨t, rest, rfl, ⟨ht, hlong, hlast⟩, htails⟩ :=
        (readTails_narrow_eq_ok_iff 16 16 rfl rfl (by decide)).1 htails
      obtain ⟨u, rest, rfl, hu, htails⟩ := readTails_any_eq_ok_iff.1 htails
      obtain ⟨v, rest, rfl, hv, htails⟩ := readTails_any_eq_ok_iff.1 htails
      obtain ⟨rfl, rfl⟩ := readTails_zero_eq_ok_iff.1 htails
      exact ⟨_, .four hk ht hu hv hlong hlast, rfl⟩
  · rintro ⟨s, hspells, hs⟩
    cases hspells with
    | one hk =>
        obtain ⟨rfl, rfl⟩ := List.cons.inj hs
        exact ⟨_, lead?_one _ hk, rfl⟩
    | @two k t hk ht =>
        obtain ⟨rfl, rfl⟩ := List.cons.inj hs
        exact ⟨_, lead?_two k hk.2 hk.1, readTails_any_eq_ok_iff.2 ⟨t, after, rfl, ht, rfl⟩⟩
    | @three k t u hk ht hu hlong hsurrogate =>
        obtain ⟨rfl, rfl⟩ := List.cons.inj hs
        refine ⟨_, lead?_three k hk,
          (readTails_narrow_eq_ok_iff 32 32 rfl rfl (by decide)).2
            ⟨t, _, rfl, ⟨ht, hlong, hsurrogate⟩, ?_⟩⟩
        exact readTails_any_eq_ok_iff.2 ⟨u, after, rfl, hu, rfl⟩
    | @four k t u v hk ht hu hv hlong hlast =>
        obtain ⟨rfl, rfl⟩ := List.cons.inj hs
        refine ⟨_, lead?_four k hk,
          (readTails_narrow_eq_ok_iff 16 16 rfl rfl (by decide)).2
            ⟨t, _, rfl, ⟨ht, hlong, hlast⟩, ?_⟩⟩
        refine readTails_any_eq_ok_iff.2 ⟨u, _, rfl, hu, ?_⟩
        exact readTails_any_eq_ok_iff.2 ⟨v, after, rfl, hv, rfl⟩

theorem exists_lead?_iff_char {b : UInt8} {rest after : Bytes} {code : Nat} :
    (∃ l, lead? b = some l ∧
        readTails l.low l.high 1 l.bits l.tails rest = .ok (code, after)) ↔
      ∃ c : Char, c.toNat = code ∧ b :: rest = String.utf8EncodeChar c ++ after := by
  simp only [exists_lead?_iff, spells_iff]
  constructor
  · rintro ⟨_, ⟨c, hc, rfl⟩, hs⟩
    exact ⟨c, hc, hs⟩
  · rintro ⟨c, hc, hs⟩
    exact ⟨_, ⟨c, hc, rfl⟩, hs⟩

/-! ### Reading a text -/

theorem decodeFrom_encodeChar (index : Nat) (done : List Char) (c : Char) (s : Bytes) :
    ∃ next, decodeFrom index done (String.utf8EncodeChar c ++ s) =
      decodeFrom next (c :: done) s := by
  obtain ⟨b, rest, hs⟩ := List.exists_cons_of_ne_nil
    (List.append_ne_nil_of_left_ne_nil (String.utf8EncodeChar_ne_nil (c := c)) s)
  obtain ⟨l, hlead, htails⟩ := exists_lead?_iff_char.2 ⟨c, rfl, hs.symm⟩
  refine ⟨index + 1 + l.tails, ?_⟩
  rw [hs, decodeFrom, hlead]
  dsimp only
  split
  · rename_i fault hfault
    cases htails.symm.trans hfault
  · rename_i code after hok
    cases htails.symm.trans hok
    rw [Char.ofNat_toNat]

theorem decodeFrom_flatMap_encodeChar (index : Nat) (done cs : List Char) :
    decodeFrom index done (cs.flatMap String.utf8EncodeChar) = .ok (done.reverse ++ cs) := by
  induction cs generalizing index done with
  | nil => rw [List.flatMap_nil, decodeFrom, List.append_nil]
  | cons c cs ih =>
      obtain ⟨next, hnext⟩ := decodeFrom_encodeChar index done c (cs.flatMap String.utf8EncodeChar)
      rw [List.flatMap_cons, hnext, ih, List.reverse_cons, List.append_assoc,
        List.singleton_append]

/-- The bytes of a string are decoded to its characters. -/
theorem decode_encode (t : String) : decode (encode t) = .ok t.toList := by
  rw [encode_eq, decode, decodeFrom_flatMap_encodeChar, List.reverse_nil, List.nil_append]

theorem isText_encode (t : String) : IsText (encode t) :=
  exists_decode_iff.1 ⟨_, decode_encode t⟩

theorem IsText.exists_encode {s : Bytes} (h : IsText s) : ∃ t, s = encode t := by
  induction h with
  | nil => exact ⟨"", by rw [encode_eq]; rfl⟩
  | char hlead htails _ ih =>
      obtain ⟨t, rfl⟩ := ih
      obtain ⟨c, _, hs⟩ := exists_lead?_iff_char.1 ⟨_, hlead, htails⟩
      refine ⟨String.ofList (c :: t.toList), ?_⟩
      rw [hs, encode_eq, encode_eq, String.toList_ofList, List.flatMap_cons]

/-- The texts are the bytes of strings. -/
theorem isText_iff_exists_encode {s : Bytes} : IsText s ↔ ∃ t, s = encode t := by
  constructor
  · exact IsText.exists_encode
  · rintro ⟨t, rfl⟩
    exact isText_encode t

end Utf8

end FencedDiff
