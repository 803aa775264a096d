import FencedDiff.Proofs.Command.Pass
import FencedDiff.Proofs.Document.Answer
import FencedDiff.Proofs.Text.Decoding
import Mathlib.Algebra.Group.Nat.Defs

/-!
# The limit on documents

A run looks at one byte more of its document than a document may have. That is enough to tell
whether the document is too long, and where it is not, nothing of it is missing: a run takes
on what it would take on if it read everything (`readDocument_exact`). The cut behind the
last byte that is looked at may fall into a character, but the length is asked first.

So a document that comes to be formatted is not too long, and the refusal that formatting has
for documents of that kind is never told. A run is told apart from one that ends so by its
exit and its last line (`Outcome.Reports`). That takes a look at what is told of the other
failures, for each of which there is a letter that the refusal does not have.
-/

namespace FencedDiff.Command

open Bytes

/-- What the document of a run is called, and the bytes that are there to be read. -/
inductive Arguments.Source (a : Arguments) (i : Invocation) : String → Bytes → Prop
  | file {path : String} {content : Bytes} (hfile : a.inputFile = some path)
      (hread : i.files.read path = .ok content) : a.Source i path content
  | stdin (hfile : a.inputFile = none) (hplace : a.inPlace = false) :
      a.Source i "stdin" i.stdin

/-- The outcome is that of a failure: so says the exit, and its line is the last. -/
def Outcome.Reports (o : Outcome) (f : Failure) : Prop :=
  o.exit = 2 ∧ o.stderr.getLast? = some f.line

/-- The refusal of a document for its length, which has passed the limit of a run. -/
def tooLarge (length max : Nat) : Failure := .format (.documentTooLarge length max)

variable {a : Arguments} {i : Invocation} {name : String} {content text : Bytes} {max : UInt64}

theorem readDocument_of_source (h : a.Source i name content) (max : UInt64) :
    a.readDocument max i = document name max content := by
  cases h with
  | file hfile hread => exact readDocument_of_read hfile hread max
  | stdin hfile hplace => rw [Arguments.readDocument, hfile, hplace]; rfl

/-- What is no text is told from what is too long. -/
theorem exists_document_eq_notText (hshort : content.length ≤ max.toNat)
    (h : ¬ Utf8.IsText content) :
    ∃ cause, document name max content = .error (.notText name cause) := by
  have hlength : content.length ≤ maxWord := hshort.trans (toNat_le_maxWord max)
  rw [document, if_neg (mt (lt_length_take_readLimit_iff hlength).1 (Nat.not_lt.2 hshort)),
    take_readLimit hshort]
  cases hdecode : Utf8.decode content with
  | error cause => exact ⟨cause, rfl⟩
  | ok chars => exact absurd (Utf8.exists_decode_iff.1 ⟨chars, hdecode⟩) h

/-- However much there is to be read, no more than allowed is taken on. -/
theorem length_le_of_document (h : document name max content = .ok text) :
    text.length ≤ max.toNat := by
  rw [document] at h
  split at h
  · cases h
  · rename_i hshort
    split at h
    · rw [← Except.ok.inj h]
      exact Nat.le_of_not_lt hshort
    · cases h

theorem length_le_of_readDocument (h : a.readDocument max i = .ok text) :
    text.length ≤ max.toNat := by
  cases hfile : a.inputFile with
  | some path =>
      obtain ⟨content, _, hdocument⟩ := exists_read_of_readDocument hfile h
      exact length_le_of_document hdocument
  | none =>
      cases hplace : a.inPlace with
      | false =>
          rw [readDocument_of_source (.stdin hfile hplace)] at h
          exact length_le_of_document h
      | true =>
          rw [Arguments.readDocument, hfile, hplace] at h
          cases h

/-! ### What is told of a failure -/

section Message

variable {c : Char} {length max : Nat} {e : Failure}

theorem not_mem_toString (h : c.isDigit = false) (n : Nat) : c ∉ (toString n).toList := by
  intro hc
  rw [Nat.toString_eq_repr, Nat.toList_repr] at hc
  rw [Nat.isDigit_of_mem_toDigits (by decide) (by decide) hc] at h
  cases h

theorem message_tooLarge (length max : Nat) : (tooLarge length max).message =
    "document is " ++ toString length ++ " bytes, larger than the " ++ toString max ++
      " byte limit" :=
  rfl

theorem not_mem_message_tooLarge (hdigit : c.isDigit = false)
    (hc : c ∉ ("document is " ++ " bytes, larger than the " ++ " byte limit").toList) :
    c ∉ (tooLarge length max).message.toList := by
  rw [message_tooLarge]
  simp only [String.toList_append, List.mem_append, not_or] at hc ⊢
  exact ⟨⟨⟨⟨hc.1.1, not_mem_toString hdigit length⟩, hc.1.2⟩, not_mem_toString hdigit max⟩, hc.2⟩

/-- The failures that are left to a run over a tree of files. -/
def Failure.Arises : Failure → Prop
  | .save cause => cause.IsKnown
  | .format cause => ∃ deep, cause = .indentTooLarge deep
  | .print _ => False
  | _ => True

/-- The letters that tell the other failures from the refusal. -/
def foreignLetters : List Char := ['f', 'v', 'x', '(']

theorem not_mem_message_of_foreign (h : c ∈ foreignLetters) :
    c ∉ (tooLarge length max).message.toList := by
  simp only [foreignLetters, List.mem_cons, List.not_mem_nil, or_false] at h
  rcases h with rfl | rfl | rfl | rfl <;>
    exact not_mem_message_tooLarge (by decide) (by simp)

theorem exists_foreign_of_isKnown {e : FileError} (h : e.IsKnown) :
    ∃ c ∈ foreignLetters, c ∈ e.message.toList := by
  cases e with
  | other text => exact absurd rfl (h text)
  | noName => exact ⟨'f', by decide, by simp [FileError.message]⟩
  | _ => exact ⟨'(', by decide, by simp [FileError.message]⟩

theorem exists_foreign_of_config (cause : ConfigError) :
    ∃ c ∈ foreignLetters, c ∈ (Failure.config cause).message.toList := by
  cases cause with
  | unreadable path cause =>
      have hmessage : (Failure.config (.unreadable path cause)).message =
          "Failed to read config file at " ++ path ++ ": " ++ cause.message ++ ": " ++
            cause.message := rfl
      exact ⟨'f', by decide, by simp [hmessage]⟩
  | unparsable path cause =>
      have hmessage : (Failure.config (.unparsable path cause)).message =
          "Failed to parse config file at " ++ path := rfl
      exact ⟨'f', by decide, by simp [hmessage]⟩
  | zero path field =>
      have hmessage : (Failure.config (.zero path field)).message =
          "Invalid value for `" ++ field ++ "` in " ++ path ++ ": must be at least 1" := rfl
      exact ⟨'v', by decide, by simp [hmessage]⟩

theorem exists_foreign_of_arises (h : e.Arises) :
    ∃ c ∈ foreignLetters, c ∈ e.message.toList := by
  cases e with
  | save cause => exact exists_foreign_of_isKnown h
  | config cause => exact exists_foreign_of_config cause
  | needsFile =>
      have hmessage : Failure.needsFile.message = "--in-place needs a file, not stdin" := rfl
      exact ⟨'f', by decide, by simp [hmessage]⟩
  | «open» path cause =>
      have hmessage : (Failure.open path cause).message =
          "failed to open " ++ path ++ ": " ++ cause.message := rfl
      exact ⟨'f', by decide, by simp [hmessage]⟩
  | read path cause =>
      have hmessage : (Failure.read path cause).message =
          "failed to read " ++ path ++ ": " ++ cause.message := rfl
      exact ⟨'f', by decide, by simp [hmessage]⟩
  | tooLong name max =>
      have hmessage : (Failure.tooLong name max).message =
          name ++ " exceeds the " ++ toString max ++ " byte limit" := rfl
      exact ⟨'x', by decide, by simp [hmessage]⟩
  | notText name cause =>
      have hmessage : (Failure.notText name cause).message =
          name ++ " is not valid UTF-8: " ++ cause.message := rfl
      exact ⟨'v', by decide, by simp [hmessage]⟩
  | format cause =>
      obtain ⟨deep, rfl⟩ := h
      have hmessage : (Failure.format (.indentTooLarge deep)).message =
          "fence indent of " ++ toString deep.indent ++ " exceeds the limit of " ++
            toString deep.max := rfl
      exact ⟨'f', by decide, by simp [hmessage]⟩
  | write path cause =>
      have hmessage : (Failure.write path cause).message =
          "failed to write " ++ path ++ ": " ++ cause.message := rfl
      exact ⟨'f', by decide, by simp [hmessage]⟩
  | print _ => exact h.elim

theorem line_ne_of_arises (h : e.Arises) : e.line ≠ (tooLarge length max).line := by
  intro hline
  have hlist := congrArg String.toList hline
  rw [Failure.line, Failure.line, String.toList_append, String.toList_append] at hlist
  obtain ⟨c, hc, hmem⟩ := exists_foreign_of_arises h
  rw [List.append_cancel_left hlist] at hmem
  exact not_mem_message_of_foreign hc hmem

theorem message_ne_line_tooLarge (e : UsageError) : e.message ≠ (tooLarge length max).line := by
  have hmessage : e.message.toList.head? = some 'e' := by
    unfold UsageError.message
    split <;> simp
  have hline : (tooLarge length max).line.toList.head? = some 'd' := by
    rw [Failure.line]
    simp
  intro h
  rw [h, hline] at hmessage
  cases hmessage

end Message

/-! ### How a run ends -/

section Runs

variable {e : Failure} {o : Outcome}

/-- An outcome that says it failed ends with what is wrong with the arguments or with a failure
that is left to runs. -/
def Outcome.EndsFairly (o : Outcome) : Prop :=
  o.exit = 2 → (∃ e : UsageError, o.stderr = [e.message]) ∨
    ∃ (e : Failure) (log : List String), e.Arises ∧ o.stderr = log ++ [e.line]

theorem endsFairly_of_exit (h : o.exit ≠ 2) : o.EndsFairly := fun hexit => absurd hexit h

theorem endsFairly_failure (h : e.Arises) (files : FileTree) (log : List String) :
    (e.outcome files log).EndsFairly := fun _ => .inr ⟨e, log, h, rfl⟩

theorem endsFairly_result {r : Result} (h : r.exit ≠ 2) (files : FileTree) (log : List String) :
    (r.outcome files log).EndsFairly := by
  rw [Result.outcome]
  split
  · exact endsFairly_of_exit h
  · rename_i path content _
    split
    · exact endsFairly_of_exit h
    · rename_i cause _
      exact endsFairly_failure (e := .write path cause) trivial files log

theorem exit_deliver_ne_two (a : Arguments) (f : Formatted) : (a.deliver f).exit ≠ 2 := by
  rw [Arguments.deliver]
  split
  · split <;> exact Nat.ne_of_beq_eq_false rfl
  · split
    · split <;> exact Nat.ne_of_beq_eq_false rfl
    · split <;> exact Nat.ne_of_beq_eq_false rfl

theorem arises_of_document (h : document name max content = .error e) : e.Arises := by
  rw [document] at h
  split at h
  · rw [← Except.error.inj h]
    trivial
  · split at h
    · cases h
    · rw [← Except.error.inj h]
      trivial

theorem arises_of_readDocument (h : a.readDocument max i = .error e) : e.Arises := by
  rw [Arguments.readDocument] at h
  split at h
  · rename_i path _
    unfold fileDocument at h
    split at h
    · exact arises_of_document h
    · rw [← Except.error.inj h]
      trivial
    · rw [← Except.error.inj h]
      trivial
  · split at h
    · rw [← Except.error.inj h]
      trivial
    · exact arises_of_document h

/-- What has been read is short enough to be formatted. -/
theorem arises_of_format {options : Options} {cause : FormatError}
    (hshort : text.length ≤ options.limits.maxDocumentBytes.toNat)
    (h : format options text = .error cause) : (Failure.format cause).Arises := by
  have hanswers := answers_format options text
  rw [h] at hanswers
  cases hanswers with
  | tooLarge hlarge => exact absurd hshort (Nat.not_le.2 hlarge)
  | tooDeep => exact ⟨_, rfl⟩

theorem arises_of_pass (h : a.pass i = .error e) : e.Arises := by
  rw [Arguments.pass] at h
  cases hload : Config.load i.files (a.configPath i.env) with
  | error cause =>
      rw [hload] at h
      rw [← Except.error.inj h]
      trivial
  | ok config =>
      rw [hload] at h
      change (a.readDocument _ i >>= _) = _ at h
      cases htext : a.readDocument (a.options config).limits.maxDocumentBytes i with
      | error cause =>
          rw [htext] at h
          rw [← Except.error.inj h]
          exact arises_of_readDocument htext
      | ok text =>
          rw [htext] at h
          change (format _ text).mapError Failure.format = _ at h
          cases hformat : format (a.options config) text with
          | error cause =>
              rw [hformat] at h
              rw [← Except.error.inj h]
              exact arises_of_format (length_le_of_readDocument htext) hformat
          | ok f =>
              rw [hformat] at h
              cases h

theorem endsFairly_writeDefaults (path : String) (files : FileTree) :
    (writeDefaults path files).EndsFairly := by
  rw [writeDefaults]
  split
  · exact endsFairly_of_exit (Nat.ne_of_beq_eq_false rfl)
  · rename_i hsave
    have hknown := FileTree.isKnown_of_plant (congrArg Prod.snd hsave)
    exact endsFairly_failure (e := .save _) hknown _ _

theorem endsFairly_conclude (a : Arguments) (i : Invocation) (files : FileTree)
    (log : List String) : (a.conclude files log (a.pass i)).EndsFairly := by
  cases hpass : a.pass i with
  | error e => exact endsFairly_failure (arises_of_pass hpass) files log
  | ok f => exact endsFairly_result (exit_deliver_ne_two a f) files log

theorem endsFairly_runWords (i : Invocation) : (runWords i).EndsFairly := by
  cases hread : Arguments.read i.args with
  | error stop =>
      rw [runWords, hread]
      cases stop with
      | usage e => exact fun _ => .inl ⟨e, rfl⟩
      | help | version => exact endsFairly_of_exit (Nat.ne_of_beq_eq_false rfl)
  | ok a =>
      cases hinit : a.initConfig with
      | false =>
          rw [runWords_eq hread hinit]
          exact endsFairly_conclude a i _ _
      | true =>
          rw [runWords, hread]
          change (a.run i).EndsFairly
          rw [Arguments.run, hinit]
          exact endsFairly_writeDefaults _ _

/-- No run ends with the refusal of a document for its length by formatting. -/
theorem not_reports_tooLarge (i : Invocation) (length max : Nat) :
    ¬ (run i).Reports (tooLarge length max) := by
  -- What is said about the log's filter stands in front, so the last line stays the last.
  rintro ⟨hexit, hlast⟩
  rcases endsFairly_runWords i hexit with ⟨e, hstderr⟩ | ⟨e, log, harises, hstderr⟩
  · rw [run, hstderr, List.getLast?_concat, Option.some.injEq] at hlast
    exact message_ne_line_tooLarge e hlast
  · rw [run, hstderr, ← List.append_assoc, List.getLast?_concat, Option.some.injEq] at hlast
    exact line_ne_of_arises harises hlast

theorem pass_ne_tooLarge (a : Arguments) (i : Invocation) (length max : Nat) :
    a.pass i ≠ .error (tooLarge length max) := by
  intro h
  obtain ⟨deep, hdeep⟩ := arises_of_pass h
  cases hdeep

end Runs

/-- What reading the document of a run comes to: nothing of the content is taken on where it is
too long or no text, and all of it otherwise. -/
structure ReadsExactly (name : String) (content : Bytes) (max : UInt64)
    (answer : Except Failure Bytes) : Prop where
  ok_iff : ∀ text, answer = .ok text ↔
    content.length ≤ max.toNat ∧ (∃ t, content = Utf8.encode t) ∧ text = content
  tooLong : max.toNat < content.length → answer = .error (.tooLong name max.toNat)
  notText : content.length ≤ max.toNat → (¬ ∃ t, content = Utf8.encode t) →
    ∃ cause, answer = .error (.notText name cause)

theorem readsExactly_document (hlength : content.length < 2 ^ 64) (name : String) (max : UInt64) :
    ReadsExactly name content max (document name max content) where
  ok_iff text := by
    rw [document_eq_ok_iff (Nat.le_of_lt_succ hlength), Utf8.isText_iff_exists_encode]
    tauto
  tooLong hlong := document_of_lt hlong (Nat.le_of_lt_succ hlength)
  notText hshort htext := by
    rw [← Utf8.isText_iff_exists_encode] at htext
    exact exists_document_eq_notText hshort htext

/-- A run takes on of its document what it would take on if it read everything, so no run gets
as far as to have a document refused for its length by formatting. -/
theorem readDocument_exact (hsource : a.Source i name content) (hlength : content.length < 2 ^ 64)
    (max : UInt64) :
    ReadsExactly name content max (a.readDocument max i) ∧
      (∀ b j length most, Arguments.pass b j ≠ .error (tooLarge length most)) ∧
      ∀ j length most, ¬ (run j).Reports (tooLarge length most) := by
  refine ⟨?_, pass_ne_tooLarge, not_reports_tooLarge⟩
  rw [readDocument_of_source hsource]
  exact readsExactly_document hlength name max

/-- An `a` and an `é`, of which the second byte is still looked at where one is allowed. -/
def halfRead : Bytes := [0x61, 0xC3, 0xA9]

theorem readDocument_exact_halfRead :
    ReadsExactly "stdin" halfRead 1 (Arguments.readDocument {} 1 { stdin := halfRead }) ∧
      (∀ b j length most, Arguments.pass b j ≠ .error (tooLarge length most)) ∧
      ∀ j length most, ¬ (run j).Reports (tooLarge length most) := by
  have hsource : Arguments.Source {} { stdin := halfRead } "stdin" halfRead := .stdin rfl rfl
  exact readDocument_exact hsource (by decide) 1

example : document "stdin" 1 halfRead = .error (.tooLong "stdin" 1) := by
  decide

end FencedDiff.Command
