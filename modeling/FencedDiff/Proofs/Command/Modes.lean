import FencedDiff.Proofs.Command.Pass
import FencedDiff.Proofs.Command.Reading
import FencedDiff.Proofs.Config.Saved

/-!
# The modes agree

A mode says what becomes of a formatted document and has no part in formatting it, so a
run with a mode has the same pass as the run without, wherever on the command line the mode
is asked for. What one mode prints the others write or compare with the file
(`modes_agree`). That the comparison and the writing in
place go by a count of changed lines, and not by the text, makes no difference, because
the count is zero exactly if the text is the same.
-/

namespace FencedDiff.Command

open Bytes

variable {a : Arguments} {i : Invocation} {f : Formatted} {mode : Mode} {path : String}
  {args : List String}

/-- The run with another command line. -/
def Invocation.asking (i : Invocation) (args : List String) : Invocation := { i with args }

/-- No document is refused because the command line has one before. -/
def Invocation.HasOneInput (i : Invocation) : Prop :=
  ∀ text, Arguments.read i.args ≠ .error (.usage (.unexpectedArgument text))

/-- What becomes of the document at a path under each of the modes, wherever on the command
line they are asked for. -/
structure ModesAgree (i : Invocation) (path : String) (content : Bytes) : Prop where
  exit_cases : (run i).exit = 0 ∨ (run i).exit = 2
  inPlace : (run i).exit = 0 → ∀ args, Mode.Asks .inPlace i.args args →
    (run (i.asking args)).exit = 0 ∧ (run (i.asking args)).stdout = [] ∧
      (run (i.asking args)).files.read path = .ok (run i).stdout
  output : (run i).exit = 0 → ∀ target args, Mode.Asks (.output target) i.args args →
    i.files.CanWrite target →
    (run (i.asking args)).exit = 0 ∧ (run (i.asking args)).stdout = [] ∧
      (run (i.asking args)).files.read target = .ok (run i).stdout
  check : (run i).exit = 0 → ∀ args, Mode.Asks .check i.args args →
    (run (i.asking args)).exit = (if (run i).stdout = content then 0 else 1) ∧
      (run (i.asking args)).stdout = [] ∧ (run (i.asking args)).files = i.files
  failed : (run i).exit = 2 → ∀ mode args, Mode.Asks mode i.args args →
    (run (i.asking args)).exit = 2 ∧ (run (i.asking args)).files = i.files ∧
      (i.HasOneInput → (run (i.asking args)).stderr = (run i).stderr)

section Asked

theorem inputFile_asked (a : Arguments) (mode : Mode) : (a.asked mode).inputFile = a.inputFile := by
  cases mode <;> rfl

theorem configPath_asked (a : Arguments) (mode : Mode) :
    (a.asked mode).configPath = a.configPath := by
  cases mode <;> rfl

theorem options_asked (a : Arguments) (mode : Mode) : (a.asked mode).options = a.options := by
  cases mode <;> rfl

theorem initConfig_asked (a : Arguments) (mode : Mode) :
    (a.asked mode).initConfig = a.initConfig := by
  cases mode <;> rfl

variable (hfile : a.inputFile = some path)
include hfile

theorem readDocument_asked (max : UInt64) :
    (a.asked mode).readDocument max (i.asking args) = a.readDocument max i := by
  rw [Arguments.readDocument, Arguments.readDocument, inputFile_asked, hfile]
  rfl

theorem pass_asked : (a.asked mode).pass (i.asking args) = a.pass i := by
  simp only [Arguments.pass, configPath_asked, options_asked, readDocument_asked hfile]
  rfl

theorem logLines_asked : (a.asked mode).logLines (i.asking args) = a.logLines i := by
  simp only [Arguments.logLines, configPath_asked, options_asked, readDocument_asked hfile]
  rfl

theorem accept_of_inputFile : mode.accept a = .ok (a.asked mode) := by
  have hinput : a.input.isNone = false := by
    rw [Arguments.inputFile, Option.filter_eq_some_iff] at hfile
    rw [hfile.1]
    rfl
  rw [Mode.accept, hinput, Bool.and_false]
  rfl

end Asked

section Deliver

variable (h : a.IsPlain)
include h

theorem deliver_plain (f : Formatted) : a.deliver f = { stdout := f.text } := by
  rw [Arguments.deliver, h.check_eq, h.inPlace_eq, h.output_eq]
  rfl

theorem deliver_inPlace (f : Formatted) : (a.asked .inPlace).deliver f =
    if f.report.changed then { write := a.inputFile.map fun path => (path, f.text) } else {} := by
  have hcheck : (a.asked .inPlace).check = false := h.check_eq
  rw [Arguments.deliver, inputFile_asked, hcheck]
  rfl

theorem deliver_output (f : Formatted) (target : String) :
    (a.asked (.output target)).deliver f = { write := some (target, f.text) } := by
  have hcheck : (a.asked (.output target)).check = false := h.check_eq
  have hplace : (a.asked (.output target)).inPlace = false := h.inPlace_eq
  rw [Arguments.deliver, hcheck, hplace]
  rfl

end Deliver

theorem deliver_check (a : Arguments) (f : Formatted) : (a.asked .check).deliver f =
    if f.report.changed then
      { exit := 1, notice := some (a.inputFile.getD "<stdin>" ++ ": would reformat") }
    else {} := by
  rw [Arguments.deliver, inputFile_asked]
  rfl

theorem runWords_of_usage {e : UsageError} (hread : Arguments.read i.args = .error (.usage e)) :
    runWords i = { exit := 2, stderr := [e.message], files := i.files } := by
  rw [runWords, hread]

section Runs

variable (hplain : IsPlainLine i.args) (hread : Arguments.read i.args = .ok a)
  (hneutral : a.IsPlain) (hfile : a.inputFile = some path) (hasks : mode.Asks i.args args)
include hplain hread hneutral hfile hasks

theorem runWords_asking : runWords (i.asking args) =
    (a.asked mode).conclude i.files (a.logLines i) (a.pass i) := by
  have hasked : Arguments.read (i.asking args).args = .ok (a.asked mode) :=
    (read_of_asks_of_ok hasks hplain hread).trans (accept_of_inputFile hfile)
  rw [runWords_eq hasked ((initConfig_asked a mode).trans hneutral.initConfig_eq),
    pass_asked hfile, logLines_asked hfile]
  rfl

theorem run_asking_of_failure {e : Failure} (hpass : a.pass i = .error e) :
    run (i.asking args) = run i := by
  rw [run, run, runWords_asking hplain hread hneutral hfile hasks,
    runWords_eq hread hneutral.initConfig_eq, hpass]
  rfl

end Runs

theorem outcome_of_canWrite {files : FileTree} {target : String} (h : files.CanWrite target)
    (content : Bytes) (log : List String) :
    (Result.outcome { write := some (target, content) } files log).exit = 0 ∧
      (Result.outcome { write := some (target, content) } files log).stdout = [] ∧
      (Result.outcome { write := some (target, content) } files log).files.read target =
        .ok content := by
  obtain ⟨new, hnew⟩ := h.exists_write content
  rw [Result.outcome]
  dsimp only
  rw [hnew]
  exact ⟨rfl, rfl, FileTree.read_write hnew⟩

/-- Where a run fails, it is enough that the modes fail. -/
theorem modesAgree_of_failed {content : Bytes} (hexit : (run i).exit = 2)
    (hfailed : ∀ mode args, Mode.Asks mode i.args args →
      (run (i.asking args)).exit = 2 ∧ (run (i.asking args)).files = i.files ∧
        (i.HasOneInput → (run (i.asking args)).stderr = (run i).stderr)) :
    ModesAgree i path content where
  exit_cases := .inr hexit
  inPlace h := by rw [hexit] at h; cases h
  output h := by rw [hexit] at h; cases h
  check h := by rw [hexit] at h; cases h
  failed _ := hfailed

theorem modesAgree_of_usage {e : UsageError} {content : Bytes} (hplain : IsPlainLine i.args)
    (hread : Arguments.read i.args = .error (.usage e)) : ModesAgree i path content := by
  apply modesAgree_of_failed
  · rw [run, runWords_of_usage hread]
  · intro mode args hasks
    rcases read_of_asks hasks hplain with hsame | ⟨⟨text, hsecond⟩, e', herror⟩
    · have hasked : Arguments.read (i.asking args).args = .error (.usage e) := by
        rw [Invocation.asking, hsame, hread]
        rfl
      rw [run, run, runWords_of_usage hasked, runWords_of_usage hread]
      exact ⟨rfl, rfl, fun _ => rfl⟩
    · have hasked : Arguments.read (i.asking args).args = .error (.usage e') := herror
      rw [run, runWords_of_usage hasked]
      exact ⟨rfl, rfl, fun hone => absurd hsecond (hone text)⟩

theorem modesAgree_of_pass {content : Bytes} (hplain : IsPlainLine i.args)
    (hread : Arguments.read i.args = .ok a) (hneutral : a.IsPlain)
    (hfile : a.inputFile = some path) (hcontent : i.files.read path = .ok content)
    (hpass : a.pass i = .ok f) (hchanged : f.report.changed = true ↔ f.text ≠ content) :
    ModesAgree i path content := by
  have hrun : runWords i = Result.outcome { stdout := f.text } i.files (a.logLines i) := by
    rw [runWords_eq hread hneutral.initConfig_eq, hpass, Arguments.conclude,
      deliver_plain hneutral]
  have hexit : (run i).exit = 0 := by
    rw [run, hrun]
    rfl
  have hstdout : (run i).stdout = f.text := by
    rw [run, hrun]
    rfl
  have hasked : ∀ {mode args}, Mode.Asks mode i.args args → runWords (i.asking args) =
      ((a.asked mode).deliver f).outcome i.files (a.logLines i) := by
    intro mode args hasks
    rw [runWords_asking hplain hread hneutral hfile hasks, hpass]
    rfl
  refine
    { exit_cases := .inl hexit
      inPlace := fun _ args hasks => ?inPlace
      output := fun _ target args hasks hwrite => ?output
      check := fun _ args hasks => ?check
      failed := fun h => absurd (hexit.symm.trans h) (by decide) }
  case inPlace =>
    rw [hstdout, run]
    dsimp only
    rw [hasked hasks, deliver_inPlace hneutral, hfile]
    by_cases h : f.report.changed = true
    · rw [if_pos h]
      exact outcome_of_canWrite (FileTree.canWrite_of_read hcontent) f.text _
    · have htext : f.text = content := not_not.1 (mt hchanged.2 h)
      rw [if_neg h, htext]
      exact ⟨rfl, rfl, hcontent⟩
  case output =>
    rw [hstdout, run]
    dsimp only
    rw [hasked hasks, deliver_output hneutral]
    exact outcome_of_canWrite hwrite f.text _
  case check =>
    rw [hstdout, run]
    dsimp only
    rw [hasked hasks, deliver_check]
    by_cases h : f.report.changed = true
    · rw [if_pos h, if_neg (hchanged.1 h)]
      exact ⟨rfl, rfl, rfl⟩
    · rw [if_neg h, if_pos (not_not.1 (mt hchanged.2 h))]
      exact ⟨rfl, rfl, rfl⟩

/-- All that a mode changes is what becomes of the document: what a run prints is what the
others write or compare with the file, and where it fails they fail alike. The length of a
file is a word, and a limit may be the greatest one. -/
theorem modes_agree {content : Bytes} (hplain : IsPlainLine i.args)
    (hinput : ∀ a, Arguments.read i.args = .ok a → a.inputFile = some path)
    (hcontent : i.files.read path = .ok content) (hlength : content.length ≤ maxWord) :
    ModesAgree i path content := by
  rcases read_cases hplain with ⟨e, hread⟩ | ⟨a, hread, hneutral⟩
  · exact modesAgree_of_usage hplain hread
  · have hfile := hinput a hread
    cases hpass : a.pass i with
    | error e =>
        have hrun : runWords i = e.outcome i.files (a.logLines i) := by
          rw [runWords_eq hread hneutral.initConfig_eq, hpass]
          rfl
        have hexit : (run i).exit = 2 := by
          rw [run, hrun]
          rfl
        have hfiles : (run i).files = i.files := by
          rw [run, hrun]
          rfl
        refine modesAgree_of_failed hexit fun mode args hasks => ?_
        rw [run_asking_of_failure hplain hread hneutral hfile hasks hpass]
        exact ⟨hexit, hfiles, fun _ => rfl⟩
    | ok f =>
        obtain ⟨config, _, _, _, hformat⟩ := (pass_eq_ok_iff_of_read hfile hcontent hlength).1 hpass
        exact modesAgree_of_pass hplain hread hneutral hfile hcontent hpass
          (changed_iff_of_format hformat)

/-! ## A small run -/

/-- A removed line behind an indented fence, in fifteen bytes. -/
def removal : Bytes :=
  space :: ticks ++ tag ++ [newline, minus, 0x61, newline] ++ ticks

/-- Sixteen bytes. -/
def removalFormatted : Bytes :=
  space :: ticks ++ tag ++ [newline, space, minus, 0x61, newline] ++ ticks

def smallArguments : Arguments := { input := some "a", config := some "c" }

/-- A run over a document and its configuration. -/
def smallRun (config : Bytes) : Invocation where
  args := ["--config", "c", "a"]
  files := ⟨[(["a"], .file removal), (["c"], .file config)]⟩

section SmallRun

variable (config : Bytes)

theorem arguments_smallRun : Arguments.read (smallRun config).args = .ok smallArguments := rfl

theorem isPlain_smallArguments : smallArguments.IsPlain := ⟨rfl, rfl, rfl, rfl⟩

theorem isPlainLine_smallRun : IsPlainLine (smallRun config).args := by
  change IsPlainLine ["--config", "c", "a"]
  decide

theorem inputFile_smallArguments : smallArguments.inputFile = some "a" := by
  decide

theorem configPath_smallArguments : smallArguments.configPath [] = "c" := by
  decide +kernel

theorem locate_a (files : FileTree) : files.locate "a" = .ok ["a"] :=
  FileTree.locate_of_names (by decide) (by decide +kernel) (by decide) (by decide) (by decide)
    (by decide)

theorem locate_c (files : FileTree) : files.locate "c" = .ok ["c"] :=
  FileTree.locate_of_names (by decide) (by decide +kernel) (by decide) (by decide) (by decide)
    (by decide)

theorem read_smallRun : (smallRun config).files.read "a" = .ok removal :=
  FileTree.read_eq_ok_iff.2 ⟨["a"], locate_a _, by decide +kernel, rfl⟩

theorem read_config_smallRun : (smallRun config).files.read "c" = .ok config :=
  FileTree.read_eq_ok_iff.2 ⟨["c"], locate_c _, by decide +kernel, rfl⟩

theorem isText_removal : Utf8.IsText removal := by
  have hall : removal.all (· < 0x80) = true := by
    decide
  have hascii : ∀ b ∈ removal, b < 0x80 := fun b hb =>
    of_decide_eq_true (List.all_eq_true.1 hall b hb)
  exact (Utf8.isText_append_iff_of_ascii (s := []) hascii).2 .nil

variable {config}

theorem pass_smallRun {options : Options} (hparse : Config.parse "c" config = .ok options)
    (hmax : 15 ≤ options.limits.maxDocumentBytes.toNat)
    (hformat : format options removal = .ok f) : smallArguments.pass (smallRun config) = .ok f := by
  rw [pass_eq_ok_iff_of_read inputFile_smallArguments (read_smallRun config) (by decide)]
  refine ⟨some options, ?_, hmax, isText_removal, hformat⟩
  change Config.load _ (smallArguments.configPath []) = _
  rw [configPath_smallArguments, Config.load_of_read (read_config_smallRun config), hparse]
  rfl

end SmallRun

/-- Allows no more bytes than the document has. -/
def tightConfig : Bytes := Utf8.encode "max_document_bytes=15"

def tightOptions : Options := { limits := { maxDocumentBytes := 15 } }

theorem parse_tightConfig : Config.parse "c" tightConfig = .ok tightOptions := by
  decide +kernel

theorem pass_tightConfig : smallArguments.pass (smallRun tightConfig) =
    .ok ⟨removalFormatted, ⟨1, 1, 1, false⟩⟩ :=
  pass_smallRun parse_tightConfig (by decide) (by decide)

theorem modes_agree_removal :
    (run (smallRun tightConfig)).exit = 0 ∧ ModesAgree (smallRun tightConfig) "a" removal ∧
      (run ((smallRun tightConfig).asking ["--config", "c", "a", "--check"])).exit = 1 := by
  have hagree : ModesAgree (smallRun tightConfig) "a" removal := by
    refine modes_agree (isPlainLine_smallRun _) ?_ (read_smallRun tightConfig) (by decide)
    intro a ha
    rw [← Except.ok.inj ((arguments_smallRun tightConfig).symm.trans ha)]
    exact inputFile_smallArguments
  have hrun : (run (smallRun tightConfig)).exit = 0 ∧
      (run (smallRun tightConfig)).stdout = removalFormatted := by
    rw [run, runWords_eq (arguments_smallRun tightConfig) rfl, pass_tightConfig]
    exact ⟨rfl, rfl⟩
  have hasks : Mode.Asks .check ["--config", "c", "a"] ["--config", "c", "a", "--check"] :=
    .insert ["--config", "c", "a"] [] ⟨by decide, by decide⟩ .check
  have hcheck := (hagree.check hrun.1 _ hasks).1
  rw [hrun.2, if_neg (by decide)] at hcheck
  exact ⟨hrun.1, hagree, hcheck⟩

end FencedDiff.Command
