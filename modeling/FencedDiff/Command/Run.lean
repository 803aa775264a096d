import FencedDiff.Command.Arguments
import FencedDiff.Command.LogFilter
import FencedDiff.Config.File
import FencedDiff.Files.Expansion

/-!
# Running the command

A run has stages: the arguments, the configuration, the document, formatting, and handing over the
result. Each stage is a function of what was read before, so that a run over a tree of files and one
over a disk differ only in who reads and writes. A run writes at its very end, at most one file, and
only when all stages went well.
-/

namespace FencedDiff.Command

/-- The name under which the command writes to the log. -/
def commandTarget : String := "diffence"

def versionText : String := "diffence 0.1.0\n"

def helpText : String :=
  "Re-indent fenced diff blocks in Markdown to match their fence\n\n" ++
  "Usage: diffence [OPTIONS] [INPUT]\n\n" ++
  "Arguments:\n" ++
  "  [INPUT]  Markdown file to format. Reads stdin when omitted or `-`\n\n" ++
  "Options:\n" ++
  "  -o, --output <OUTPUT>    Write the result here instead of stdout\n" ++
  "  -i, --in-place           Rewrite INPUT in place\n" ++
  "      --check              Write nothing; exit with status 1 if the document would change\n" ++
  "      --policy <POLICY>    Re-indentation policy (overrides the config file)\n" ++
  "      --scanner <SCANNER>  Fence scanner (overrides the config file)\n" ++
  "      --config <CONFIG>    Config file to use instead of ~/.config/diffence/config.toml\n" ++
  "      --init-config        Write a config file with default settings and exit\n" ++
  "  -h, --help               Print help\n" ++
  "  -V, --version            Print version\n"

/-- Why a run fails. -/
inductive Failure where
  | save (cause : FileError)
  | config (cause : ConfigError)
  /-- In-place formatting of standard input. -/
  | needsFile
  | open (path : String) (cause : FileError)
  | read (path : String) (cause : FileError)
  | tooLong (name : String) (max : Nat)
  | notText (name : String) (cause : Utf8.Invalid)
  | format (cause : FormatError)
  | write (path : String) (cause : FileError)
  /-- Standard output that takes no more. -/
  | print (cause : FileError)
  deriving DecidableEq, Repr

/-- What a user is told. Where a configuration cannot be read or a scan gave up, the cause is told
twice. -/
def Failure.message : Failure → String
  | .save cause => cause.message
  | .config (.unreadable path cause) =>
    (ConfigError.unreadable path cause).headline ++ ": " ++ cause.message
  | .config cause => cause.headline
  | .needsFile => "--in-place needs a file, not stdin"
  | .open path cause => "failed to open " ++ path ++ ": " ++ cause.message
  | .read path cause => "failed to read " ++ path ++ ": " ++ cause.message
  | .tooLong name max => name ++ " exceeds the " ++ toString max ++ " byte limit"
  | .notText name cause => name ++ " is not valid UTF-8: " ++ cause.message
  | .format (.scanFailed cause) => (FormatError.scanFailed cause).message ++ ": " ++ cause.message
  | .format cause => cause.message
  | .write path cause => "failed to write " ++ path ++ ": " ++ cause.message
  | .print cause => cause.message

def Failure.line (f : Failure) : String := "diffence: " ++ f.message

/-! ## The configuration -/

/-- Where the configuration is. A path with variables that are not set is taken as it is. -/
def Arguments.configPath (a : Arguments) (env : Environment) : String :=
  match a.config with
  | some path => (env.expand? path).getD path
  | none => env.configPath

/-- The options of the run: those of the configuration, or the defaults, with what the arguments
say instead. -/
def Arguments.options (a : Arguments) (config : Option Options) : Options :=
  let base := config.getD {}
  { base with
    policy := a.policy.getD base.policy
    scanner := a.scanner.getD base.scanner }

def policyLabel : Policy → String
  | .changedLines => "ChangedLines"
  | .baseline => "Baseline"

def scannerLabel : ScannerKind → String
  | .lines => "Lines"
  | .backtracking => "Backtracking"

def configRecord (path : String) (config : Option Options) : LogRecord :=
  let o := config.getD {}
  ⟨.debug, commandTarget,
    "config from " ++ path ++ ": Config \x7b policy: " ++ policyLabel o.policy ++
      ", scanner: " ++ scannerLabel o.scanner ++
      ", max_document_bytes: " ++ toString o.limits.maxDocumentBytes.toNat ++
      ", max_fence_indent: " ++ toString o.limits.maxFenceIndent.toNat ++
      ", scan_budget_factor: " ++ toString o.limits.scanBudgetFactor.toNat ++ " \x7d"⟩

/-! ## The document -/

/-- Whether a path means standard input: a dash, behind which only slashes and dots may stand. -/
def meansInput (path : String) : Bool :=
  match FileTree.names path with
  | "-" :: rest => !path.startsWith "/" && rest.all (· == ".")
  | _ => false

/-- The file that the document is in, unless that is standard input. -/
def Arguments.inputFile (a : Arguments) : Option String := a.input.filter fun path =>
  !meansInput path

/-- How many bytes of a document are read: one more than allowed, so that a longer one shows, but
no more than a word can count. -/
def readLimit (max : UInt64) : Nat := min (max.toNat + 1) maxWord

/-- The document that bytes hold, of which no more than `readLimit max` are looked at. -/
def document (name : String) (max : UInt64) (content : Bytes) : Except Failure Bytes :=
  let bytes := content.take (readLimit max)
  if max.toNat < bytes.length then .error (.tooLong name max.toNat)
  else
    match Utf8.decode bytes with
    | .ok _ => .ok bytes
    | .error e => .error (.notText name e)

/-- Reads the document of a file, when reading it went as `content` says. -/
def fileDocument (path : String) (max : UInt64) (content : Except FileError Bytes) :
    Except Failure Bytes :=
  match content with
  | .ok bytes => document path max bytes
  | .error .isADirectory => .error (.read path .isADirectory)
  | .error e => .error (.open path e)

/-! ## The result -/

/-- What a run comes to: output, exit status, and maybe a file to write. -/
structure Result where
  exit : Nat := 0
  stdout : Bytes := []
  notice : Option String := none
  write : Option (String × Bytes) := none
  deriving DecidableEq, Repr

def Arguments.deliver (a : Arguments) (f : Formatted) : Result :=
  if a.check then
    if f.report.changed then
      { exit := 1, notice := some (a.inputFile.getD "<stdin>" ++ ": would reformat") }
    else {}
  else if a.inPlace then
    if f.report.changed then { write := a.inputFile.map fun path => (path, f.text) } else {}
  else
    match a.output with
    | some path => { write := some (path, f.text) }
    | none => { stdout := f.text }

def reportRecord (r : Report) : LogRecord :=
  ⟨.info, commandTarget,
    toString r.blocksFound ++ " diff block(s), " ++ toString r.blocksChanged ++ " rewritten, " ++
      toString r.linesChanged ++ " line(s) changed"⟩

def documentRecords (options : Options) (text : Bytes) : List LogRecord :=
  formatRecords options text ++
    match format options text with
    | .ok f => [reportRecord f.report]
    | .error _ => []

/-! ## A run over a tree of files -/

/-- All that a run depends on. -/
structure Invocation where
  args : List String := []
  env : Environment := []
  stdin : Bytes := []
  files : FileTree := {}

/-- All that a run leaves. -/
structure Outcome where
  exit : Nat := 0
  stdout : Bytes := []
  stderr : List String := []
  files : FileTree

def Failure.outcome (f : Failure) (files : FileTree) (log : List String) : Outcome :=
  { exit := 2, stderr := log ++ [f.line], files }

def Result.outcome (r : Result) (files : FileTree) (log : List String) : Outcome :=
  match r.write with
  | none => { exit := r.exit, stdout := r.stdout, stderr := log ++ r.notice.toList, files }
  | some (path, content) =>
    match files.write path content with
    | .ok files => { exit := r.exit, stdout := r.stdout, stderr := log ++ r.notice.toList, files }
    | .error e => (Failure.write path e).outcome files log

def writeDefaults (path : String) (files : FileTree) : Outcome :=
  match Config.save files path {} with
  | (files, .ok _) => { stderr := ["Wrote default config to " ++ path], files }
  | (files, .error e) => (Failure.save e).outcome files []

def Arguments.readDocument (a : Arguments) (max : UInt64) (i : Invocation) :
    Except Failure Bytes :=
  match a.inputFile with
  | some path => fileDocument path max (i.files.read path)
  | none => if a.inPlace then .error .needsFile else document "stdin" max i.stdin

/-- Formats as the arguments say. -/
def Arguments.run (a : Arguments) (i : Invocation) : Outcome :=
  let filter := (LogFilter.ofEnvironment i.env).1
  let path := a.configPath i.env
  if a.initConfig then writeDefaults path i.files
  else
    match Config.load i.files path with
    | .error e => (Failure.config e).outcome i.files []
    | .ok config =>
      let options := a.options config
      let log := filter.lines [configRecord path config]
      match a.readDocument options.limits.maxDocumentBytes i with
      | .error f => f.outcome i.files log
      | .ok text =>
        let log := log ++ filter.lines (documentRecords options text)
        match format options text with
        | .error e => (Failure.format e).outcome i.files log
        | .ok f => (a.deliver f).outcome i.files log

def runWords (i : Invocation) : Outcome :=
  match Arguments.read i.args with
  | .error (.usage e) => { exit := 2, stderr := [e.message], files := i.files }
  | .error .help => { stdout := Utf8.encode helpText, files := i.files }
  | .error .version => { stdout := Utf8.encode versionText, files := i.files }
  | .ok a => a.run i

/-- Runs the command. What is wrong with the log's filter is said before anything else. -/
def run (i : Invocation) : Outcome :=
  let o := runWords i
  { o with stderr := (LogFilter.ofEnvironment i.env).2 ++ o.stderr }

end FencedDiff.Command
