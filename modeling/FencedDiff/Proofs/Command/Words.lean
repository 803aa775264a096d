import FencedDiff.Command.Arguments

/-!
# Words of a command line

A command line is plain if its words say how to format which document, and not what is to
become of the result. A word of a plain line is an option with its value, an option that
awaits its value, or no flag at all (`isNeutralWord_cases`). The words that ask for a mode
may be put anywhere between those of a plain line, as long as an option keeps its value and
they do not come behind `--`, where they would be no flags (`Mode.Asks`).
-/

namespace FencedDiff.Command

/-- What is to become of a formatted document, other than to be printed. -/
inductive Mode where
  | inPlace
  | output (path : String)
  | check
  deriving DecidableEq, Repr

/-- Whether a word can be the value of an option in front of it, for it does not look like a
flag. -/
def isValueWord (word : String) : Bool := word == "-" || word.toList.head? != some '-'

/-- The words that ask for a mode. An option and its value may be two words or one. -/
inductive Mode.Spelling : Mode → List String → Prop
  | inPlace {word : String} (hword : word ∈ ["-i", "--in-place"]) : Spelling .inPlace [word]
  | check : Spelling .check ["--check"]
  | output {word path : String} (hword : word ∈ ["-o", "--output"]) (hpath : path ≠ "")
      (hvalue : isValueWord path = true) : Spelling (.output path) [word, path]
  | attached {option path : String} (hoption : option ∈ ["-o=", "--output="])
      (hpath : path ≠ "") : Spelling (.output path) [option ++ path]
  | joined {path : String} (hpath : path ≠ "") (hequals : path.toList.head? ≠ some '=') :
      Spelling (.output path) ["-o" ++ path]

/-- The options that a plain command line has, as they stand in front of their values. -/
def bareOptions : List String := ["--policy", "--scanner", "--config"]

/-- Between these words others may be put that are read as flags. They must not come between
an option and its value. -/
structure IsGap (front back : List String) : Prop where
  not_mem : "--" ∉ front
  isValueWord_eq : ∀ option ∈ front.getLast?, option ∈ bareOptions →
    ∀ word ∈ back.head?, isValueWord word = false

/-- The second words ask for a mode, and otherwise for what the first ask for. -/
inductive Mode.Asks (mode : Mode) : List String → List String → Prop
  | insert (front back : List String) {ws : List String} (hgap : IsGap front back)
      (hspelling : mode.Spelling ws) : Asks mode (front ++ back) (front ++ (ws ++ back))

/-! ## Plain command lines -/

/-- Whether an argument says how to format which document. -/
def Arg.isNeutral : Arg → Bool
  | .input | .policy | .scanner | .config => true
  | _ => false

/-- Whether a word is the flag of a neutral argument, maybe with its value, or no flag. -/
def isNeutralWord (word : String) : Bool :=
  match word.toList with
  | ['-'] => true
  | '-' :: '-' :: text =>
    ["policy", "scanner", "config"].contains (String.ofList (text.takeWhile (· != '=')))
  | '-' :: _ => false
  | _ => true

/-- The words have no other flags than those of neutral arguments. What stands behind `--` is no
flag. -/
def IsPlainLine (words : List String) : Prop :=
  ∀ word ∈ words.takeWhile (· != "--"), isNeutralWord word = true

instance (words : List String) : Decidable (IsPlainLine words) :=
  inferInstanceAs (Decidable (∀ word ∈ words.takeWhile (· != "--"), isNeutralWord word = true))

theorem isPlainLine_cons_iff {word : String} {words : List String} :
    IsPlainLine (word :: words) ↔
      word = "--" ∨ isNeutralWord word = true ∧ IsPlainLine words := by
  unfold IsPlainLine
  by_cases h : word = "--"
  · subst h
    simp
  · rw [List.takeWhile_cons_of_pos (by simpa using h), List.forall_mem_cons]
    simp [h]

theorem isPlainLine_append_iff {front words : List String} (h : "--" ∉ front) :
    IsPlainLine (front ++ words) ↔
      (∀ word ∈ front, isNeutralWord word = true) ∧ IsPlainLine words := by
  have hfront : ∀ word ∈ front, (word != "--") = true := by
    rintro word hword
    exact bne_iff_ne.2 fun heq => h (heq ▸ hword)
  unfold IsPlainLine
  rw [List.takeWhile_append_of_pos hfront, List.forall_mem_append]

/-! ## How a word is taken -/

/-- The long names in a plain command line are those of options. -/
theorem exists_arg_of_contains {name : String}
    (h : ["policy", "scanner", "config"].contains name = true) :
    ∃ arg, Arg.ofLong? name = some arg ∧ arg.isNeutral = true ∧ arg.takesValue = true := by
  rw [List.contains_iff_mem] at h
  simp only [List.mem_cons, List.not_mem_nil, or_false] at h
  rcases h with rfl | rfl | rfl
  · exact ⟨.policy, rfl, rfl, rfl⟩
  · exact ⟨.scanner, rfl, rfl, rfl⟩
  · exact ⟨.config, rfl, rfl, rfl⟩

theorem long_cases {text : List Char}
    (h : ["policy", "scanner", "config"].contains
      (String.ofList (text.takeWhile (· != '='))) = true) :
    (∃ arg value, arg.isNeutral = true ∧ ∀ r : Reading, r.long text = r.attached arg value) ∨
    (String.ofList ('-' :: '-' :: text) ∈ bareOptions ∧ ∃ arg, arg.isNeutral = true ∧
      ∀ r : Reading, r.long text = r.await arg) := by
  obtain ⟨arg, hname, hneutral, hvalue⟩ := exists_arg_of_contains h
  cases hdrop : text.dropWhile (· != '=') with
  | nil =>
      have htext : text.takeWhile (· != '=') = text := by
        have happend := text.takeWhile_append_dropWhile (p := (· != '='))
        rwa [hdrop, List.append_nil] at happend
      rw [htext, List.contains_iff_mem] at h
      have hword : String.ofList ('-' :: '-' :: text) = "--" ++ String.ofList text :=
        String.toList_inj.1 (by simp)
      refine .inr ⟨?_, arg, hneutral, fun r => by simp only [Reading.long, hname, hvalue, hdrop]⟩
      rw [hword]
      exact List.mem_map_of_mem (f := ("--" ++ ·)) h
  | cons c value =>
      exact .inl ⟨arg, String.ofList value, hneutral, fun r => by
        simp only [Reading.long, hname, hvalue, hdrop]⟩

theorem take_of_isValueWord {word : String} (h : isValueWord word = true) {r : Reading}
    (hr : r.positionalOnly = false) : r.take word = r.plain word := by
  rw [Reading.take, hr]
  cases hword : word.toList with
  | nil => rfl
  | cons c cs =>
      by_cases hc : c = '-'
      · subst hc
        obtain rfl : word = "-" := by simpa [isValueWord, hword] using h
        obtain rfl : cs = [] := (List.cons.inj hword).2.symm
        rfl
      · simp [hc]

/-- A word is the two dashes behind which nothing is a flag, or a long flag, or short flags, or
no flag. -/
theorem take_cases (word : String) :
    word = "--" ∨
    (∃ text, word.toList = '-' :: '-' :: text ∧
      ∀ r : Reading, r.positionalOnly = false → r.take word = r.long text) ∨
    (∃ c text, c ≠ '-' ∧ word.toList = '-' :: c :: text ∧
      ∀ r : Reading, r.positionalOnly = false → r.take word = r.short (c :: text)) ∨
    (isValueWord word = true ∧
      ∀ r : Reading, r.positionalOnly = false → r.take word = r.plain word) := by
  by_cases hvalue : isValueWord word = true
  · exact .inr (.inr (.inr ⟨hvalue, fun r hr => take_of_isValueWord hvalue hr⟩))
  rw [isValueWord, Bool.or_eq_true, beq_iff_eq, bne_iff_ne, not_or, Decidable.not_not] at hvalue
  obtain ⟨hdash, hhead⟩ := hvalue
  obtain ⟨rest, hword⟩ := List.head?_eq_some_iff.1 hhead
  rcases rest with _ | ⟨c, text⟩
  · exact absurd (String.toList_inj.1 hword) hdash
  by_cases hc : c = '-'
  · subst hc
    rcases text with _ | ⟨d, text⟩
    · exact .inl (String.toList_inj.1 hword)
    · refine .inr (.inl ⟨d :: text, hword, fun r hr => ?_⟩)
      rw [Reading.take, hr, hword]
      rfl
  · refine .inr (.inr (.inl ⟨c, text, hc, hword, fun r hr => ?_⟩))
    rw [Reading.take, hr, hword]
    simp [hc]

/-- A neutral word gives an option its value, or is an option that awaits one, or is no flag. -/
theorem isNeutralWord_cases {word : String} (h : isNeutralWord word = true) :
    (∃ arg value, arg.isNeutral = true ∧
      ∀ r : Reading, r.positionalOnly = false → r.take word = r.attached arg value) ∨
    (word ∈ bareOptions ∧ ∃ arg, arg.isNeutral = true ∧
      ∀ r : Reading, r.positionalOnly = false → r.take word = r.await arg) ∨
    (isValueWord word = true ∧
      ∀ r : Reading, r.positionalOnly = false → r.take word = r.plain word) := by
  rcases take_cases word with
    rfl | ⟨text, hword, htake⟩ | ⟨c, text, hc, hword, _⟩ | hplain
  · exact absurd h (by decide)
  · rw [isNeutralWord, hword] at h
    rcases long_cases h with ⟨arg, value, harg, hlong⟩ | ⟨hbare, arg, harg, hlong⟩
    · exact .inl ⟨arg, value, harg, fun r hr => (htake r hr).trans (hlong r)⟩
    · rw [← hword, String.ofList_toList] at hbare
      exact .inr (.inl ⟨hbare, arg, harg, fun r hr => (htake r hr).trans (hlong r)⟩)
  · rw [isNeutralWord, hword] at h
    simp [hc] at h
  · exact .inr (.inr hplain)

section Modes

variable {r : Reading} (hr : r.positionalOnly = false)
include hr

theorem take_inPlace {word : String} (hword : word ∈ ["-i", "--in-place"]) :
    r.take word = r.flag .inPlace := by
  rw [List.mem_cons, List.mem_singleton] at hword
  rw [Reading.take, hr]
  rcases hword with rfl | rfl
  · exact bind_pure _
  · rfl

theorem take_check : r.take "--check" = r.flag .check := by
  rw [Reading.take, hr]
  rfl

theorem take_output {word : String} (hword : word ∈ ["-o", "--output"]) :
    r.take word = r.await .output := by
  rw [List.mem_cons, List.mem_singleton] at hword
  rw [Reading.take, hr]
  rcases hword with rfl | rfl <;> rfl

theorem take_attached {option path : String} (hoption : option ∈ ["-o=", "--output="]) :
    r.take (option ++ path) = r.attached .output path := by
  rw [List.mem_cons, List.mem_singleton] at hoption
  rw [Reading.take, hr, String.toList_append]
  rcases hoption with rfl | rfl
  · change r.attached .output (String.ofList path.toList) = _
    rw [String.ofList_toList]
  · change r.attached .output (String.ofList path.toList) = _
    rw [String.ofList_toList]

theorem take_joined {path : String} (hpath : path ≠ "") (hequals : path.toList.head? ≠ some '=') :
    r.take ("-o" ++ path) = r.attached .output path := by
  rw [Reading.take, hr, String.toList_append]
  cases htext : path.toList with
  | nil => exact absurd (String.toList_inj.1 htext) hpath
  | cons c cs =>
      rw [htext] at hequals
      have hc : c ≠ '=' := fun heq => hequals (congrArg some heq)
      have hlist : String.ofList (c :: cs) = path := by rw [← htext, String.ofList_toList]
      change r.short ('o' :: c :: cs) = _
      rw [Reading.short]
      simp [Arg.ofShort?, Arg.takesValue, hc, hlist]

end Modes

end FencedDiff.Command
