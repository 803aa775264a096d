import FencedDiff.Config.Fields
import FencedDiff.Toml.Document

/-!
# Configuration files

Loading reads the file at a path, if anything stands there, and checks what it holds; saving writes
one with all fields and makes its directory. What is wrong with the content of a file does not hang
on where it stands, so `Config.parse` takes the bytes alone.
-/

namespace FencedDiff.Config

def ValueError.ofMalformed : Toml.Malformed → ValueError
  | .noCharacter => .noCharacter
  | .other => .untold

/-- The options that the bytes of a configuration file give; `path` is named in errors. -/
def parse (path : String) (content : Bytes) : Except ConfigError Options :=
  match Utf8.decode content with
  | .error _ => .error (.unreadable path .notText)
  | .ok text =>
    match Toml.parse text with
    | .error e => .error (.unparsable path (.ofMalformed e))
    | .ok table =>
      match ofTable table with
      | .error e => .error (.unparsable path e)
      | .ok options =>
        match zeroField? options with
        | some field => .error (.zero path field)
        | none => .ok options

/-- What a configuration file gives when reading it went as `content` says; nothing when it is not
there. -/
def ofFile? (path : String) (content : Option (Except FileError Bytes)) :
    Except ConfigError (Option Options) :=
  match content with
  | none => .ok none
  | some (.error cause) => .error (.unreadable path (.file cause))
  | some (.ok bytes) => (parse path bytes).map some

/-- Loads the configuration at a path; nothing when there is none. -/
def load (files : FileTree) (path : String) : Except ConfigError (Option Options) :=
  ofFile? path (if files.isThere path then some (files.read path) else none)

/-- Saves options at a path; answers the tree even when that fails. -/
def save (files : FileTree) (path : String) (options : Options) :
    FileTree × Except FileError Unit :=
  files.plant path (Utf8.encode (render options))

end FencedDiff.Config
