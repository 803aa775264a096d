import FencedDiff.Command.Run

/-!
# The command on a disk

Reads and writes for the stages of a run; what is read, and what it means, is decided there.
-/

open FencedDiff FencedDiff.Command

namespace FencedDiff.Disk

def cause (e : IO.Error) : FileError :=
  match e with
  | .noFileOrDirectory .. => .notFound
  | .alreadyExists .. => .alreadyExists
  | .inappropriateType _ code details =>
    if code = 20 then .notADirectory else if code = 21 then .isADirectory else other code details
  | .invalidArgument _ code details => if code = 36 then .nameTooLong else other code details
  | .permissionDenied _ code details => other code details
  | .resourceVanished code details => other code details
  | .resourceExhausted _ code details => other code details
  | .otherError code details => other code details
  | e => .other (toString e)
where
  other (code : UInt32) (details : String) : FileError :=
    .other (details ++ " (os error " ++ toString code ++ ")")

/-- Does something with the disk. -/
def attempt {α : Type} (action : IO α) : IO (Except FileError α) := do
  try return .ok (← action)
  catch e => return .error (cause e)

partial def readUpTo (input : IO.FS.Stream) (limit : Nat) (done : ByteArray) : IO ByteArray := do
  if limit ≤ done.size then return done
  let chunk ← input.read (min (limit - done.size) 65536).toUSize
  if chunk.isEmpty then return done else readUpTo input limit (done ++ chunk)

def readFile (path : String) (limit : Nat) : IO (Except FileError Bytes) := attempt do
  let file ← IO.FS.Handle.mk path .read
  return (← readUpTo (.ofHandle file) limit .empty).data.toList

/-- The configuration file, if anything is there. -/
def readConfig (path : String) : IO (Option (Except FileError Bytes)) := do
  match ← readFile path maxWord with
  | .error .notFound | .error .notADirectory => return none
  | content => return some content

def writeFile (path : String) (content : Bytes) : IO (Except FileError Unit) :=
  attempt (IO.FS.writeBinFile path ⟨content.toArray⟩)

/-- The variables that a run may ask for. -/
def environment (a : Arguments) : IO Environment := do
  let names := ["HOME", LogFilter.variableName] ++ Expansion.mentioned (a.config.getD "").toList
  names.filterMapM fun name => return (← IO.getEnv name).map fun value => (name, value)

def fail (f : Failure) : IO UInt32 := do
  IO.eprintln f.line
  return 2

/-- Makes the directories on the way to a path and writes a configuration there. -/
def writeDefaults (path : String) : IO UInt32 := do
  let parent := "/".intercalate (path.splitOn "/").dropLast
  let made ← if parent.isEmpty then pure (.ok ()) else attempt (IO.FS.createDirAll parent)
  let outcome ← match made with
    | .ok _ => writeFile path (Utf8.encode (Config.render {}))
    | .error e => pure (.error e)
  match outcome with
  | .ok _ =>
    IO.eprintln ("Wrote default config to " ++ path)
    return 0
  | .error e => fail (.save e)

def readDocument (a : Arguments) (max : UInt64) : IO (Except Failure Bytes) := do
  match a.inputFile with
  | some path => return fileDocument path max (← readFile path (readLimit max))
  | none =>
    if a.inPlace then return .error .needsFile
    else
      match ← attempt (readUpTo (← IO.getStdin) (readLimit max) .empty) with
      | .ok bytes => return document "stdin" max bytes.data.toList
      | .error e => return .error (.read "stdin" e)

def print (content : Bytes) : IO Unit := do
  let stdout ← IO.getStdout
  stdout.write ⟨content.toArray⟩
  stdout.flush

def finish (r : Result) : IO UInt32 := do
  if let some (path, content) := r.write then
    if let .error e ← writeFile path content then return ← fail (.write path e)
  if let .error e ← attempt (print r.stdout) then return ← fail (.print e)
  r.notice.forM fun line => IO.eprintln line
  return r.exit.toUInt32

/-- Says what is wrong with the log's filter. -/
def warn : IO Unit := do
  let spec ← IO.getEnv LogFilter.variableName
  let env : Environment := spec.toList.map fun value => (LogFilter.variableName, value)
  (LogFilter.ofEnvironment env).2.forM fun line => IO.eprintln line

def format (a : Arguments) : IO UInt32 := do
  let env ← environment a
  let (filter, _) := LogFilter.ofEnvironment env
  let log (records : List LogRecord) : IO Unit :=
    (filter.lines records).forM fun line => IO.eprintln line
  let path := a.configPath env
  if a.initConfig then writeDefaults path
  else
    match Config.ofFile? path (← readConfig path) with
    | .error e => fail (.config e)
    | .ok config =>
      log [configRecord path config]
      let options := a.options config
      match ← readDocument a options.limits.maxDocumentBytes with
      | .error f => fail f
      | .ok text =>
        log (documentRecords options text)
        match FencedDiff.format options text with
        | .error e => fail (.format e)
        | .ok f => finish (a.deliver f)

end FencedDiff.Disk

def main (words : List String) : IO UInt32 := do
  Disk.warn
  match Arguments.read words with
  | .error (.usage e) =>
    IO.eprintln e.message
    return 2
  | .error .help =>
    IO.print helpText
    return 0
  | .error .version =>
    IO.print versionText
    return 0
  | .ok a => Disk.format a
