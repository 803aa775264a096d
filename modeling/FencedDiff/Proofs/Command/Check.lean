import FencedDiff.Proofs.Command.Modes
import FencedDiff.Proofs.Document.Blocks
import FencedDiff.Proofs.Document.Convergence
import FencedDiff.Proofs.Document.Encoding
import FencedDiff.Proofs.Document.Stability

/-!
# A file that was formatted in place

The check that comes after formatting in place reads what formatting has left. That is a
text again, its fences are no deeper than they were, and its blocks are settled, so the
check passes, unless the file has grown beyond the longest document that is taken on
(`check_after_inPlace`). Formatting itself does not look at the length of what it
answers, and so may leave a file that the next run refuses.
-/

namespace FencedDiff

open Bytes

section Again

variable {options : Options} {text : Bytes}

theorem IsSettled.exists_format (h : IsSettled options.policy text)
    (hdeep : tooDeep? options (scanLines text) = none)
    (hlength : text.length ≤ options.limits.maxDocumentBytes.toNat) :
    ∃ f, format options text = .ok f ∧ f.report.changed = false := by
  obtain ⟨parts, hparts, hlines, hsettled⟩ := h
  obtain ⟨r, hformat, _, hzero⟩ := hparts.format_of_settled hlines hsettled hdeep hlength
  exact ⟨⟨text, r⟩, hformat, by rw [Report.changed, hzero]; rfl⟩

/-- What a pass has changed is settled. -/
theorem isSettled_of_changed {f : Formatted} (h : format options text = .ok f)
    (hne : f.text ≠ text) :
    IsSettled options.policy f.text ∧ tooDeep? options (scanLines f.text) = none := by
  rcases format_eq_ok_cases h with rfl | ⟨hdeep, rfl⟩
  · exact absurd rfl hne
  · obtain ⟨parts, hparts, hlines⟩ := exists_outline (splitLines text)
    refine ⟨?_, tooDeep?_formatted hdeep⟩
    rw [hparts.text_formatted hlines]
    exact isSettled_realignLines hparts hlines fun p _ => p.settled_realign options.policy

end Again

namespace Command

variable {a : Arguments} {i : Invocation} {f : Formatted} {path : String}

/-- The invocation over the files that a run with another command line leaves. -/
def Invocation.after (i : Invocation) (args : List String) : Invocation :=
  { i with files := (run (i.asking args)).files }

section Runs

variable {edit check : List String} (hplain : IsPlainLine i.args)
  (hread : Arguments.read i.args = .ok a) (hneutral : a.IsPlain) (hfile : a.inputFile = some path)
include hplain hread hneutral hfile

theorem inPlace_cases (hedit : Mode.Asks .inPlace i.args edit)
    (hdone : (run (i.asking edit)).exit = 0) :
    ∃ f, a.pass i = .ok f ∧ (f.report.changed = true ∧
      (i.after edit).files.read path = .ok f.text ∨
        f.report.changed = false ∧ i.after edit = i) := by
  have hrun := runWords_asking hplain hread hneutral hfile hedit
  cases hpass : a.pass i with
  | error e =>
      rw [run, hrun, hpass] at hdone
      cases hdone
  | ok f =>
      refine ⟨f, rfl, ?_⟩
      rw [hpass, Arguments.conclude, deliver_inPlace hneutral, hfile] at hrun
      cases hchanged : f.report.changed with
      | true =>
          obtain ⟨config, text, _, htext, _⟩ := pass_eq_ok_iff.1 hpass
          obtain ⟨content, hcontent, _⟩ := exists_read_of_readDocument hfile htext
          rw [hchanged, if_pos rfl, Option.map] at hrun
          have hwritten := outcome_of_canWrite (FileTree.canWrite_of_read hcontent) f.text
            (a.logLines i)
          rw [← hrun] at hwritten
          exact .inl ⟨rfl, hwritten.2.2⟩
      | false =>
          refine .inr ⟨rfl, ?_⟩
          rw [Invocation.after, run, hrun, hchanged]
          rfl

theorem check_of_pass (hcheck : Mode.Asks .check i.args check) (hpass : a.pass i = .ok f)
    (hchanged : f.report.changed = false) : (run (i.asking check)).exit = 0 := by
  rw [run, runWords_asking hplain hread hneutral hfile hcheck, hpass, Arguments.conclude,
    deliver_check, hchanged]
  rfl

theorem check_of_failure (hcheck : Mode.Asks .check i.args check) {e : Failure}
    (hpass : a.pass i = .error e) : (run (i.asking check)).exit = 2 := by
  rw [run, runWords_asking hplain hread hneutral hfile hcheck, hpass]
  rfl

end Runs

/-- After a file was formatted in place the check passes, if the file is no longer than a
document may be; a longer one is refused. Both runs may be asked for anywhere on the command
line. -/
theorem check_after_inPlace {edit check : List String} (hplain : IsPlainLine i.args)
    (hread : Arguments.read i.args = .ok a) (hfile : a.inputFile = some path)
    (hedit : Mode.Asks .inPlace i.args edit) (hcheck : Mode.Asks .check i.args check)
    (hdone : (run (i.asking edit)).exit = 0)
    (hsame : Config.load (i.after edit).files (a.configPath i.env) =
      Config.load i.files (a.configPath i.env)) :
    ∃ config left, Config.load i.files (a.configPath i.env) = .ok config ∧
      (i.after edit).files.read path = .ok left ∧
      (left.length ≤ (a.options config).limits.maxDocumentBytes.toNat →
        (run ((i.after edit).asking check)).exit = 0) ∧
      ((a.options config).limits.maxDocumentBytes.toNat < left.length →
        left.length ≤ maxWord → (run ((i.after edit).asking check)).exit = 2) := by
  have hneutral := isPlain_of_read hplain hread
  obtain ⟨f, hpass, hleft⟩ := inPlace_cases hplain hread hneutral hfile hedit hdone
  obtain ⟨config, text, hload, htext, hformat⟩ := pass_eq_ok_iff.1 hpass
  obtain ⟨content, hcontent, hdocument⟩ := exists_read_of_readDocument hfile htext
  have hrefused : ∀ {left : Bytes}, (i.after edit).files.read path = .ok left →
      (a.options config).limits.maxDocumentBytes.toNat < left.length → left.length ≤ maxWord →
      (run ((i.after edit).asking check)).exit = 2 := by
    intro left hleft hlong hlength
    exact check_of_failure hplain hread hneutral hfile hcheck
      (pass_of_lt hfile hleft (hsame.trans hload) hlong hlength)
  rcases hleft with ⟨hchanged, hleft⟩ | ⟨hchanged, hafter⟩
  · refine ⟨config, f.text, hload, hleft, ?_, hrefused hleft⟩
    intro hshort
    have hne := (changed_iff_of_format hformat).1 hchanged
    obtain ⟨hsettled, hdeep⟩ := isSettled_of_changed hformat hne
    obtain ⟨f', hformat', hnone⟩ := hsettled.exists_format hdeep hshort
    have hpass' : a.pass (i.after edit) = .ok f' := by
      rw [pass_eq_ok_iff_of_read hfile hleft (hshort.trans (toNat_le_maxWord _))]
      exact ⟨config, hsame.trans hload, hshort,
        isText_of_format hformat (isText_of_document hdocument), hformat'⟩
    exact check_of_pass hplain hread hneutral hfile hcheck hpass' hnone
  · rw [hafter] at hrefused ⊢
    exact ⟨config, content, hload, hcontent,
      fun _ => check_of_pass hplain hread hneutral hfile hcheck hpass hchanged,
        hrefused hcontent⟩

/-! ## The small run, twice -/

section SmallRun

/-- The small run in place. -/
def smallEdit : List String := ["--config", "c", "a", "-i"]

/-- The small run as a check. -/
def smallCheck : List String := ["--config", "c", "--check", "a"]

theorem asks_smallEdit (config : Bytes) : Mode.Asks .inPlace (smallRun config).args smallEdit :=
  .insert ["--config", "c", "a"] [] ⟨by decide, by decide⟩ (.inPlace (by decide))

theorem asks_smallCheck (config : Bytes) : Mode.Asks .check (smallRun config).args smallCheck :=
  .insert ["--config", "c"] ["a"] ⟨by decide, by decide⟩ .check

variable {config : Bytes}
  (hpass : smallArguments.pass (smallRun config) = .ok ⟨removalFormatted, ⟨1, 1, 1, false⟩⟩)
include hpass

theorem runWords_smallEdit :
    runWords ((smallRun config).asking smallEdit) =
      { stderr := smallArguments.logLines (smallRun config),
        files := (smallRun config).files.put ["a"] (.file removalFormatted) } := by
  have hfind : (smallRun config).files.find? ["a"] = some (.file removal) := rfl
  have hwrite : (smallRun config).files.write "a" removalFormatted =
      .ok ((smallRun config).files.put ["a"] (.file removalFormatted)) :=
    FileTree.write_eq_ok_iff.2 ⟨["a"], locate_a _, by decide +kernel, by simp [hfind], rfl⟩
  rw [runWords_asking (isPlainLine_smallRun config) (arguments_smallRun config)
    isPlain_smallArguments inputFile_smallArguments (asks_smallEdit config), hpass,
    Arguments.conclude, deliver_inPlace isPlain_smallArguments, inputFile_smallArguments,
    if_pos (by decide), Option.map, Result.outcome]
  dsimp only
  rw [hwrite]
  simp

theorem files_after_smallEdit : ((smallRun config).after smallEdit).files =
    (smallRun config).files.put ["a"] (.file removalFormatted) := by
  rw [Invocation.after, run, runWords_smallEdit hpass]

theorem read_after_smallEdit :
    ((smallRun config).after smallEdit).files.read "a" = .ok removalFormatted := by
  rw [files_after_smallEdit hpass]
  exact FileTree.read_eq_ok_iff.2 ⟨["a"], locate_a _, by decide +kernel, rfl⟩

theorem load_after_smallEdit : Config.load ((smallRun config).after smallEdit).files "c" =
    Config.load (smallRun config).files "c" := by
  have hread : ((smallRun config).after smallEdit).files.read "c" = .ok config := by
    rw [files_after_smallEdit hpass]
    exact FileTree.read_eq_ok_iff.2 ⟨["c"], locate_c _, by decide +kernel, rfl⟩
  rw [Config.load_of_read hread, Config.load_of_read (read_config_smallRun config)]

end SmallRun

/-- The check refuses a file that formatting has made too long. -/
theorem check_after_inPlace_refused :
    (run ((smallRun tightConfig).asking smallEdit)).exit = 0 ∧
      Config.load ((smallRun tightConfig).after smallEdit).files "c" =
        Config.load (smallRun tightConfig).files "c" ∧
      (run (((smallRun tightConfig).after smallEdit).asking smallCheck)).exit = 2 := by
  have hread := read_after_smallEdit pass_tightConfig
  have hload := load_after_smallEdit pass_tightConfig
  refine ⟨?_, hload, ?_⟩
  · rw [run, runWords_smallEdit pass_tightConfig]
  · rw [Config.load_of_read (read_config_smallRun tightConfig), parse_tightConfig,
      ← configPath_smallArguments] at hload
    have hfail := pass_of_lt inputFile_smallArguments hread hload (by decide) (by decide)
    exact check_of_failure (isPlainLine_smallRun tightConfig) (arguments_smallRun tightConfig)
      isPlain_smallArguments inputFile_smallArguments (asks_smallCheck tightConfig) hfail

/-- Allows the one byte that formatting adds. -/
def looseConfig : Bytes := Utf8.encode "max_document_bytes=16"

def looseOptions : Options := { limits := { maxDocumentBytes := 16 } }

theorem parse_looseConfig : Config.parse "c" looseConfig = .ok looseOptions := by
  decide +kernel

theorem pass_looseConfig : smallArguments.pass (smallRun looseConfig) =
    .ok ⟨removalFormatted, ⟨1, 1, 1, false⟩⟩ :=
  pass_smallRun parse_looseConfig (by decide) (by decide)

theorem check_after_inPlace_removal :
    (run ((smallRun looseConfig).asking smallEdit)).exit = 0 ∧
      (run (((smallRun looseConfig).after smallEdit).asking smallCheck)).exit = 0 := by
  have hexit : (run ((smallRun looseConfig).asking smallEdit)).exit = 0 := by
    rw [run, runWords_smallEdit pass_looseConfig]
  have hsame := load_after_smallEdit pass_looseConfig
  rw [← configPath_smallArguments] at hsame
  obtain ⟨config, left, hload, hleft, hshort, _⟩ := check_after_inPlace
    (isPlainLine_smallRun looseConfig) (arguments_smallRun looseConfig) inputFile_smallArguments
    (asks_smallEdit looseConfig) (asks_smallCheck looseConfig) hexit hsame
  refine ⟨hexit, hshort ?_⟩
  rw [read_after_smallEdit pass_looseConfig] at hleft
  change Config.load _ (smallArguments.configPath []) = _ at hload
  rw [configPath_smallArguments, Config.load_of_read (read_config_smallRun looseConfig),
    parse_looseConfig] at hload
  rw [← Except.ok.inj hleft, ← Except.ok.inj hload]
  decide

end Command

end FencedDiff
