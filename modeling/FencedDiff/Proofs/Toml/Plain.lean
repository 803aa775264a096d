import FencedDiff.Proofs.Toml.Scalar
import FencedDiff.Toml.Document

/-!
# Plain documents

A plain line gives a bare key a value: a word between quotation marks in which nothing is
escaped, or a number in decimal. A document of such lines is read as the table of what they
say, in their order, as long as no key stands twice (`parse_plainText`).

A line is read whatever stands behind it (`line?_written`), because the newline at its end
goes on with nothing. That makes the documents an induction on the lines, and so is the table,
which grows by the entry of a line when its key is new.
-/

namespace FencedDiff.Toml

/-! ### Keys -/

section Key

variable {key : List Char} {c : Char}

/-- The key needs no quotation marks. -/
def IsBareKey (key : List Char) : Prop := key ≠ [] ∧ ∀ c ∈ key, isBareKeyChar c = true

theorem isBareKeyChar_of_isDigit (h : c.isDigit = true) : isBareKeyChar c = true := by
  simp [isBareKeyChar, Char.isAlphanum, h]

theorem ne_of_isBareKeyChar {d : Char} (h : isBareKeyChar c = true) (hd : isBareKeyChar d = false) :
    c ≠ d := by
  rintro rfl
  rw [h] at hd
  cases hd

theorem isKeyChar_of_isBareKeyChar (h : isBareKeyChar c = true) : isKeyChar c = true := by
  have hne : ∀ d ∈ ['=', ',', '[', ']', '\x7b', '\x7d', ' ', '\t', '#', '\r', '\n', '.'], c ≠ d := by
    have hall : ['=', ',', '[', ']', '\x7b', '\x7d', ' ', '\t', '#', '\r', '\n', '.'].all
        (isBareKeyChar · == false) = true := rfl
    exact fun d hd => ne_of_isBareKeyChar h (eq_of_beq (List.all_eq_true.1 hall d hd))
  simpa [isKeyChar, isScalarChar, and_assoc] using hne

theorem quotation?_of_isBareKeyChar (h : isBareKeyChar c = true) (rest : List Char) :
    quotation? (c :: rest) = none := by
  rw [quotation?.eq_def]
  dsimp only
  rw [if_neg]
  rintro (rfl | rfl) <;> cases h

theorem skipBlanks_of_isBareKeyChar (h : isBareKeyChar c = true) (rest : List Char) :
    skipBlanks (c :: rest) = c :: rest := by
  have hspace : c ≠ ' ' := ne_of_isBareKeyChar h rfl
  have htab : c ≠ '\t' := ne_of_isBareKeyChar h rfl
  have hblank : isBlankChar c = false := by
    simp [isBlankChar, hspace, htab]
  rw [skipBlanks, List.dropWhile_cons, hblank]
  rfl

theorem newline?_of_isBareKeyChar (h : isBareKeyChar c = true) (rest : List Char) :
    newline? (c :: rest) = none := by
  unfold newline?
  split
  · rename_i hcons
    exact absurd (List.cons.inj hcons).1 (ne_of_isBareKeyChar h rfl)
  · rename_i hcons
    exact absurd (List.cons.inj hcons).1 (ne_of_isBareKeyChar h rfl)
  · rfl

theorem statement?_of_isBareKeyChar (h : isBareKeyChar c = true) (rest : List Char) :
    statement? (c :: rest) = (definition? skipBlanks (value? maxDepth) (c :: rest)).map
      fun d => (.define d.1.1 d.1.2, d.2) := by
  unfold statement?
  split
  · rename_i hcons
    exact absurd (List.cons.inj hcons).1 (ne_of_isBareKeyChar h rfl)
  · rename_i hcons
    exact absurd (List.cons.inj hcons).1 (ne_of_isBareKeyChar h rfl)
  · rfl

theorem keyWord?_key (h : IsBareKey key) (rest : List Char) :
    keyWord? (key ++ ' ' :: rest) = some (.bare key, ' ' :: rest) := by
  have hkey : ∀ c ∈ key, isKeyChar c = true := fun c hc => isKeyChar_of_isBareKeyChar (h.2 c hc)
  have htake : (key ++ ' ' :: rest).takeWhile isKeyChar = key := by
    rw [List.takeWhile_append_of_pos hkey]
    simp [isKeyChar, isScalarChar]
  have hdrop : (key ++ ' ' :: rest).dropWhile isKeyChar = ' ' :: rest := by
    rw [List.dropWhile_append_of_pos hkey]
    simp [isKeyChar, isScalarChar]
  obtain ⟨c, cs, rfl⟩ := List.exists_cons_of_ne_nil h.1
  have hquotation := quotation?_of_isBareKeyChar (h.2 c List.mem_cons_self) (cs ++ ' ' :: rest)
  rw [keyWord?, htake, hdrop, List.cons_append, hquotation]
  rfl

theorem keyPath?_key (h : IsBareKey key) (rest : List Char) :
    keyPath? [] (key ++ ' ' :: '=' :: rest) = some (⟨[], .bare key⟩, '=' :: rest) := by
  have hword := keyWord?_key h ('=' :: rest)
  obtain ⟨c, cs, rfl⟩ := List.exists_cons_of_ne_nil h.1
  rw [keyPath?, List.cons_append, skipBlanks_of_isBareKeyChar (h.2 c List.mem_cons_self),
    ← List.cons_append, hword]
  rfl

theorem texts_key (h : IsBareKey key) :
    KeyPath.texts ⟨[], .bare key⟩ = .ok ([], String.ofList key) := by
  have htext : KeyWord.text (.bare key) = .ok (String.ofList key) :=
    if_pos (List.all_eq_true.2 h.2)
  rw [KeyPath.texts, htext]
  rfl

end Key

/-! ### Lines -/

/-- A value that is written without escapes. -/
inductive PlainValue where
  | word (text : String) (plain : IsPlainWord text.toList)
  | count (n : Nat)

namespace PlainValue

def written : PlainValue → List Char
  | .word text _ => '"' :: (text.toList ++ ['"'])
  | .count n => Nat.toDigits 10 n

def node : PlainValue → Node
  | .word text _ => .quoted ⟨'"', false, text.toList ++ ['"']⟩
  | .count n => .scalar (Nat.toDigits 10 n)

def value : PlainValue → Value
  | .word text _ => .string text
  | .count n => .integer n

theorem value_node (v : PlainValue) : v.node.value = .ok v.value := by
  cases v with
  | word text plain =>
      rw [node, Node.value, text_word plain, String.ofList_toList]
      rfl
  | count n =>
      rw [node, Node.value, scalar?_toDigits]
      rfl

theorem value?_written (v : PlainValue) (depth : Nat) (rest : List Char) :
    value? depth (v.written ++ '\n' :: rest) = some (v.node, '\n' :: rest) := by
  cases v with
  | word text plain =>
      have hwritten : (word text plain).written ++ '\n' :: rest =
          '"' :: (text.toList ++ '"' :: '\n' :: rest) := by
        simp [written]
      have hquotation := quotation?_word plain rest
      rw [hwritten, value?.eq_def]
      dsimp only
      rw [if_neg (by decide), if_neg (by decide), hquotation]
      rfl
  | count n =>
      have hcut := cutScalar_digits (isDigit_toDigits n) [] rest
      obtain ⟨c, cs, hdigit, hcs⟩ := exists_toDigits_eq_cons n
      have hc := isBareKeyChar_of_isDigit hdigit
      rw [hcs] at hcut
      rw [written, node, hcs, List.cons_append, value?.eq_def]
      dsimp only
      rw [if_neg (ne_of_isBareKeyChar hc rfl), if_neg (ne_of_isBareKeyChar hc rfl),
        quotation?_of_isBareKeyChar hc, ← List.cons_append, hcut]
      rfl

theorem skipBlanks_written (v : PlainValue) (rest : List Char) :
    skipBlanks (' ' :: (v.written ++ rest)) = v.written ++ rest := by
  change skipBlanks (v.written ++ rest) = _
  cases v with
  | word text plain => rfl
  | count n =>
      obtain ⟨c, cs, hdigit, hcs⟩ := exists_toDigits_eq_cons n
      rw [written, hcs]
      exact skipBlanks_of_isBareKeyChar (isBareKeyChar_of_isDigit hdigit) _

end PlainValue

/-- A line that gives a bare key a value. -/
structure PlainLine where
  key : String
  value : PlainValue
  bare : IsBareKey key.toList

namespace PlainLine

/-- The line as it is written, with its newline. -/
def written (l : PlainLine) : List Char :=
  l.key.toList ++ [' ', '=', ' '] ++ l.value.written ++ ['\n']

def statement (l : PlainLine) : Statement := .define ⟨[], .bare l.key.toList⟩ l.value.node

def entry (l : PlainLine) : String × Value := (l.key, l.value.value)

variable (l : PlainLine) (rest : List Char)

theorem definition?_written : definition? skipBlanks (value? maxDepth) (l.written ++ rest) =
    some ((⟨[], .bare l.key.toList⟩, l.value.node), '\n' :: rest) := by
  have hkey := keyPath?_key l.bare (' ' :: (l.value.written ++ '\n' :: rest))
  have hvalue := l.value.value?_written maxDepth rest
  have hwritten : l.written ++ rest =
      l.key.toList ++ ' ' :: '=' :: ' ' :: (l.value.written ++ '\n' :: rest) := by
    simp [written]
  rw [hwritten, definition?, hkey]
  change (value? maxDepth (skipBlanks (' ' :: (l.value.written ++ '\n' :: rest)))).map _ = _
  rw [l.value.skipBlanks_written, hvalue]
  rfl

theorem exists_written_eq : ∃ c cs, isBareKeyChar c = true ∧ l.written = c :: cs := by
  obtain ⟨c, cs, hcs⟩ := List.exists_cons_of_ne_nil l.bare.1
  refine ⟨c, cs ++ [' ', '=', ' '] ++ l.value.written ++ ['\n'], l.bare.2 c ?_, ?_⟩
  · rw [hcs]
    exact List.mem_cons_self
  · rw [written, hcs]
    rfl

theorem line?_written : line? (l.written ++ rest) = some (some l.statement, rest) := by
  have hdefinition := l.definition?_written rest
  obtain ⟨c, cs, hc, hcs⟩ := l.exists_written_eq
  have hcomment : c ≠ '#' := ne_of_isBareKeyChar hc rfl
  rw [hcs, List.cons_append] at hdefinition ⊢
  rw [line?, skipBlanks_of_isBareKeyChar hc]
  dsimp only
  rw [if_neg (by simp [newline?_of_isBareKeyChar hc, hcomment]), statement?_of_isBareKeyChar hc,
    hdefinition]
  rfl

end PlainLine

/-! ### Documents -/

def plainText (ls : List PlainLine) : List Char := ls.flatMap PlainLine.written

theorem statements?_plainText (done : List Statement) (ls : List PlainLine) :
    statements? done (plainText ls) = some (done.reverse ++ ls.map PlainLine.statement) := by
  induction ls generalizing done with
  | nil =>
      rw [statements?]
      simp [plainText]
  | cons l ls ih =>
      have hline := l.line?_written (plainText ls)
      obtain ⟨c, cs, _, hcs⟩ := l.exists_written_eq
      have htext : plainText (l :: ls) = l.written ++ plainText ls := List.flatMap_cons
      have hlength : (plainText ls).length < (l.written ++ plainText ls).length := by
        rw [hcs, List.length_append, List.length_cons]
        omega
      have hnotEmpty : (l.written ++ plainText ls).isEmpty = false := by
        rw [hcs]
        rfl
      -- The reader goes on only where a line has made the text shorter.
      rw [htext, statements?, hnotEmpty, if_neg Bool.false_ne_true, hline]
      dsimp only
      rw [if_pos hlength, ih]
      simp

theorem add_statement (l : PlainLine) {t : Table} (h : t.get? l.key = none) :
    Builder.add ⟨t, []⟩ l.statement = .ok ⟨t ++ [l.entry], []⟩ := by
  have hchange : Table.change? (Table.define? l.key l.value.value []) [] t =
      some (t ++ [l.entry]) := by
    rw [Table.change?, Table.define?, Table.insert?, h]
    rfl
  rw [PlainLine.statement, Builder.add, texts_key l.bare, l.value.value_node, String.ofList_toList]
  change (orMalformed (Table.change? (Table.define? l.key l.value.value []) [] t) >>= _) = _
  rw [hchange]
  rfl

theorem get?_eq_none {t : Table} {key : String} (h : key ∉ t.map Prod.fst) : t.get? key = none := by
  rw [Table.get?, List.lookup_eq_none_iff]
  intro e he
  rw [bne_iff_ne]
  rintro rfl
  exact h (List.mem_map_of_mem he)

/-- Statements that define different keys are added one behind the other. -/
theorem foldlM_add_statement {ls : List PlainLine} {t : Table}
    (h : (t.map Prod.fst ++ ls.map PlainLine.key).Nodup) :
    (ls.map PlainLine.statement).foldlM Builder.add ⟨t, []⟩ =
      .ok ⟨t ++ ls.map PlainLine.entry, []⟩ := by
  induction ls generalizing t with
  | nil =>
      rw [List.map_nil, List.map_nil, List.append_nil]
      rfl
  | cons l ls ih =>
      have hkeys : t.map Prod.fst ++ (l :: ls).map PlainLine.key =
          (t ++ [l.entry]).map Prod.fst ++ ls.map PlainLine.key := by
        simp [PlainLine.entry]
      have hnew : l.key ∉ t.map Prod.fst := fun hmem =>
        (List.nodup_append.1 h).2.2 _ hmem _ List.mem_cons_self rfl
      rw [List.map_cons, List.foldlM_cons, add_statement l (get?_eq_none hnew)]
      change (ls.map PlainLine.statement).foldlM Builder.add ⟨t ++ [l.entry], []⟩ = _
      rw [ih (hkeys ▸ h)]
      simp

theorem dropByteOrderMark_plainText (ls : List PlainLine) :
    dropByteOrderMark (plainText ls) = plainText ls := by
  cases ls with
  | nil => rfl
  | cons l ls =>
      obtain ⟨c, cs, hc, hcs⟩ := l.exists_written_eq
      rw [plainText, List.flatMap_cons, hcs, List.cons_append]
      unfold dropByteOrderMark
      split
      · rename_i hcons
        exact absurd (List.cons.inj hcons).1 (ne_of_isBareKeyChar hc (by decide))
      · rfl

/-- A document of plain lines without a key that stands twice is read as what the lines say. -/
theorem parse_plainText {ls : List PlainLine} (h : (ls.map PlainLine.key).Nodup) :
    parse (plainText ls) = .ok (ls.map PlainLine.entry) := by
  have hfold := foldlM_add_statement (t := []) h
  rw [parse, dropByteOrderMark_plainText, statements?_plainText]
  change Table.ofStatements (ls.map PlainLine.statement) = _
  rw [Table.ofStatements, hfold]
  rfl

end FencedDiff.Toml
