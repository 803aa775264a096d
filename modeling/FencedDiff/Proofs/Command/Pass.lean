import FencedDiff.Command.Run
import FencedDiff.Except
import FencedDiff.Proofs.Document.Report
import FencedDiff.Proofs.Files.Tree
import FencedDiff.Proofs.Text.Encoding

/-!
# The pass of a run

Before a run hands anything over it has loaded the configuration, read the document and
formatted it, and none of these writes. `Arguments.pass` is that part of a run, and a run
is its pass with an end put to it (`run_eq`). What a run leaves is read off the end alone:
a failure, or a result that may name one file to write.
-/

namespace FencedDiff.Command

open Bytes

variable {a : Arguments} {i : Invocation} {f : Formatted}

/-- What a run does before it hands anything over: the formatted document, or why there is none. -/
def Arguments.pass (a : Arguments) (i : Invocation) : Except Failure Formatted := do
  let config ← (Config.load i.files (a.configPath i.env)).mapError .config
  let options := a.options config
  let text ← a.readDocument options.limits.maxDocumentBytes i
  (format options text).mapError .format

/-- The lines of the log that a run writes on the way. -/
def Arguments.logLines (a : Arguments) (i : Invocation) : List String :=
  let filter := (LogFilter.ofEnvironment i.env).1
  let path := a.configPath i.env
  match Config.load i.files path with
  | .error _ => []
  | .ok config =>
    let options := a.options config
    filter.lines [configRecord path config] ++
      match a.readDocument options.limits.maxDocumentBytes i with
      | .error _ => []
      | .ok text => filter.lines (documentRecords options text)

/-- The end of a run, after its pass and some lines of the log. -/
def Arguments.conclude (a : Arguments) (files : FileTree) (log : List String) :
    Except Failure Formatted → Outcome
  | .error e => e.outcome files log
  | .ok f => (a.deliver f).outcome files log

theorem run_eq (h : a.initConfig = false) :
    a.run i = a.conclude i.files (a.logLines i) (a.pass i) := by
  rw [Arguments.run, h, if_neg Bool.false_ne_true, Arguments.pass, Arguments.logLines]
  cases Config.load i.files (a.configPath i.env) with
  | error e => rfl
  | ok config =>
      simp only [mapError_ok, bind, Except.bind]
      cases a.readDocument (a.options config).limits.maxDocumentBytes i with
      | error e =>
          simp only [List.append_nil]
          rfl
      | ok text =>
          dsimp only
          cases format (a.options config) text <;> rfl

theorem runWords_eq (hread : Arguments.read i.args = .ok a) (h : a.initConfig = false) :
    runWords i = a.conclude i.files (a.logLines i) (a.pass i) := by
  rw [runWords, hread]
  exact run_eq h

theorem pass_eq_ok_iff :
    a.pass i = .ok f ↔ ∃ config text, Config.load i.files (a.configPath i.env) = .ok config ∧
      a.readDocument (a.options config).limits.maxDocumentBytes i = .ok text ∧
      format (a.options config) text = .ok f := by
  simp only [Arguments.pass, bind_eq_ok_iff, mapError_eq_ok_iff]
  constructor
  · rintro ⟨config, hload, text, htext, hformat⟩
    exact ⟨config, text, hload, htext, hformat⟩
  · rintro ⟨config, text, hload, htext, hformat⟩
    exact ⟨config, hload, text, htext, hformat⟩

/-! ## The document of a pass -/

/-- One byte more than allowed is read, so that a longer document shows. -/
theorem lt_length_take_readLimit_iff {max : UInt64} {content : Bytes}
    (h : content.length ≤ maxWord) :
    max.toNat < (content.take (readLimit max)).length ↔ max.toNat < content.length := by
  have hmax := toNat_le_maxWord max
  rw [List.length_take, readLimit]
  omega

theorem take_readLimit {max : UInt64} {content : Bytes} (h : content.length ≤ max.toNat) :
    content.take (readLimit max) = content := by
  have hmax := toNat_le_maxWord max
  apply List.take_of_length_le
  rw [readLimit]
  omega

theorem document_of_lt {name : String} {max : UInt64} {content : Bytes}
    (hlong : max.toNat < content.length) (h : content.length ≤ maxWord) :
    document name max content = .error (.tooLong name max.toNat) := by
  rw [document, if_pos ((lt_length_take_readLimit_iff h).2 hlong)]

/-- A document is all that was given or nothing of it. -/
theorem document_eq_ok_iff {name : String} {max : UInt64} {content text : Bytes}
    (h : content.length ≤ maxWord) :
    document name max content = .ok text ↔
      text = content ∧ content.length ≤ max.toNat ∧ Utf8.IsText content := by
  rcases Nat.lt_or_ge max.toNat content.length with hlong | hshort
  · rw [document_of_lt hlong h]
    simp [Nat.not_le.2 hlong]
  · rw [document, if_neg (mt (lt_length_take_readLimit_iff h).1 (Nat.not_lt.2 hshort)),
      take_readLimit hshort, ← Utf8.exists_decode_iff]
    cases Utf8.decode content with
    | error e => simp
    | ok chars => simp [hshort, eq_comm]

theorem isText_of_document {name : String} {max : UInt64} {content text : Bytes}
    (h : document name max content = .ok text) : Utf8.IsText text := by
  rw [document] at h
  split at h
  · cases h
  · split at h
    · rename_i chars hchars
      rw [← Except.ok.inj h]
      exact Utf8.exists_decode_iff.1 ⟨chars, hchars⟩
    · cases h

section File

variable {path : String} {content : Bytes} (hfile : a.inputFile = some path)
include hfile

theorem readDocument_of_read (hread : i.files.read path = .ok content) (max : UInt64) :
    a.readDocument max i = document path max content := by
  rw [Arguments.readDocument, hfile]
  change fileDocument path max (i.files.read path) = _
  rw [hread]
  rfl

theorem exists_read_of_readDocument {max : UInt64} {text : Bytes}
    (h : a.readDocument max i = .ok text) :
    ∃ content, i.files.read path = .ok content ∧ document path max content = .ok text := by
  rw [Arguments.readDocument, hfile] at h
  change fileDocument path max (i.files.read path) = _ at h
  cases hread : i.files.read path with
  | error e =>
      rw [hread] at h
      cases e <;> cases h
  | ok content =>
      rw [hread] at h
      exact ⟨content, rfl, h⟩

theorem pass_eq_ok_iff_of_read (hread : i.files.read path = .ok content)
    (h : content.length ≤ maxWord) :
    a.pass i = .ok f ↔ ∃ config, Config.load i.files (a.configPath i.env) = .ok config ∧
      content.length ≤ (a.options config).limits.maxDocumentBytes.toNat ∧
      Utf8.IsText content ∧ format (a.options config) content = .ok f := by
  simp only [pass_eq_ok_iff, readDocument_of_read hfile hread, document_eq_ok_iff h]
  constructor
  · rintro ⟨config, text, hload, ⟨rfl, hshort, htext⟩, hformat⟩
    exact ⟨config, hload, hshort, htext, hformat⟩
  · rintro ⟨config, hload, hshort, htext, hformat⟩
    exact ⟨config, content, hload, ⟨rfl, hshort, htext⟩, hformat⟩

theorem pass_of_lt {config : Option Options} (hread : i.files.read path = .ok content)
    (hload : Config.load i.files (a.configPath i.env) = .ok config)
    (hlong : (a.options config).limits.maxDocumentBytes.toNat < content.length)
    (h : content.length ≤ maxWord) :
    a.pass i = .error (.tooLong path (a.options config).limits.maxDocumentBytes.toNat) := by
  rw [Arguments.pass, hload]
  change (a.readDocument _ i >>= _) = _
  rw [readDocument_of_read hfile hread, document_of_lt hlong h]
  rfl

end File

end FencedDiff.Command
