import FencedDiff.Proofs.Command.Pass

/-!
# Where a run writes

A run that fails has printed and written nothing. A run that does not fail may have
written the formatted document to the file that its arguments name, and has changed no
other (`run_writes_target`). Both follow from the shape of a run: all that can fail,
but for the writing itself, comes before it, and it is done at most once.
-/

namespace FencedDiff.Command

variable {a : Arguments} {i : Invocation} {f : Formatted}

/-- The arguments have a document written to the path. -/
def Arguments.IsTarget (a : Arguments) (path : String) : Prop :=
  a.inPlace = true ∧ a.inputFile = some path ∨ a.output = some path

/-- The arguments have the formatted document, which is the content, written to the path. -/
def Invocation.Delivers (i : Invocation) (path : String) (content : Bytes) : Prop :=
  ∃ a f, Arguments.read i.args = .ok a ∧ a.IsTarget path ∧ a.pass i = .ok f ∧ content = f.text

/-- Prints and writes only if the exit is zero, and writes one of the allowed files. -/
structure Outcome.Writes (o : Outcome) (files : FileTree) (allowed : String → Bytes → Prop) :
    Prop where
  failed : o.exit ≠ 0 → o.stdout = [] ∧ o.files = files
  done : o.exit = 0 → o.files = files ∨
    ∃ path content, allowed path content ∧ files.Wrote o.files path content

section Outcomes

variable {files : FileTree} {log : List String} {allowed : String → Bytes → Prop}

theorem writes_of_nothing {o : Outcome} (hfiles : o.files = files)
    (hfailed : o.exit ≠ 0 → o.stdout = []) : o.Writes files allowed where
  failed h := ⟨hfailed h, hfiles⟩
  done _ := .inl hfiles

theorem writes_failure (e : Failure) : (e.outcome files log).Writes files allowed :=
  writes_of_nothing rfl fun _ => rfl

/-- A write that fails makes the run fail. -/
theorem writes_result {path : String} {content : Bytes} (h : allowed path content) :
    (Result.outcome { write := some (path, content) } files log).Writes files allowed := by
  rw [Result.outcome]
  dsimp only
  cases hwrite : files.write path content with
  | error e => exact writes_failure _
  | ok new => exact ⟨fun hexit => absurd rfl hexit,
      fun _ => .inr ⟨path, content, h, FileTree.wrote_of_write hwrite⟩⟩

theorem writes_deliver (h : ∀ path, a.IsTarget path → allowed path f.text) :
    ((a.deliver f).outcome files log).Writes files allowed := by
  rw [Arguments.deliver]
  split
  · split <;> exact writes_of_nothing rfl fun _ => rfl
  · split
    · rename_i hplace
      split
      · cases hfile : a.inputFile with
        | none => exact writes_of_nothing rfl fun _ => rfl
        | some path => exact writes_result (h path (.inl ⟨hplace, hfile⟩))
      · exact writes_of_nothing rfl fun _ => rfl
    · split
      · rename_i path houtput
        exact writes_result (h path (.inr houtput))
      · exact writes_of_nothing rfl fun hexit => absurd rfl hexit

end Outcomes

/-- Only a run that succeeds prints or writes, and all that it may write is the formatted
document, as the whole of the target. -/
theorem run_writes_target (hinit : ∀ a, Arguments.read i.args = .ok a → a.initConfig = false) :
    (run i).Writes i.files i.Delivers := by
  have hwords : (runWords i).Writes i.files i.Delivers := by
    cases hread : Arguments.read i.args with
    | error stop =>
        rw [runWords, hread]
        cases stop with
        | usage e => exact writes_of_nothing rfl fun _ => rfl
        | help | version => exact writes_of_nothing rfl fun hexit => absurd rfl hexit
    | ok a =>
        rw [runWords_eq hread (hinit a hread)]
        cases hpass : a.pass i with
        | error e => exact writes_failure e
        | ok f => exact writes_deliver fun path htarget => ⟨a, f, hread, htarget, hpass, rfl⟩
  exact ⟨hwords.failed, hwords.done⟩

/-- A run whose target is the configuration that it reads. -/
def overConfig : Invocation where
  args := ["a", "--config", "c", "-o", "c"]
  files := ⟨[(["a"], .file (Utf8.encode " ```diff\n-a\n```\n")),
    (["c"], .file (Utf8.encode "policy=\"baseline\""))]⟩

theorem run_writes_target_overConfig :
    (run overConfig).Writes overConfig.files overConfig.Delivers := by
  have hread : Arguments.read overConfig.args =
      .ok { input := some "a", output := some "c", config := some "c" } := rfl
  apply run_writes_target
  intro a ha
  rw [← Except.ok.inj (hread.symm.trans ha)]

end FencedDiff.Command
