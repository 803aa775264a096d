import FencedDiff.Text.Bytes

/-!
# A tree of files

Files and directories below a working directory, as a value. A path is walked name by name: the
place that a name is looked up in has to be a directory, a dot stays in place, and `..` goes up. The
operations are those that the command needs: reading a file, writing a whole file, and making the
directories on the way to one. Writing answers a new tree, which differs from the old one at the
written place alone (`find?_put_self`, `find?_put_of_ne`). Making directories answers a tree even
when it fails, because those made before stay.
-/

namespace FencedDiff

inductive FileError where
  | notFound
  | alreadyExists
  | notADirectory
  | isADirectory
  | nameTooLong
  /-- The path holds a character that no name can hold. -/
  | noName
  /-- Anything else that a disk may report. -/
  | other (text : String)
  deriving DecidableEq, Repr

def FileError.message : FileError → String
  | .notFound => "No such file or directory (os error 2)"
  | .alreadyExists => "File exists (os error 17)"
  | .notADirectory => "Not a directory (os error 20)"
  | .isADirectory => "Is a directory (os error 21)"
  | .nameTooLong => "File name too long (os error 36)"
  | .noName => "file name contained an unexpected NUL byte"
  | .other text => text

/-- The names that lead to a place, from the working directory down. From the root down, the first
name is `/`; the places above the working directory are `..` and so on. -/
abbrev Location := List String

inductive Entry where
  | file (content : Bytes)
  | directory
  deriving DecidableEq, Repr

/-- What stands below the working directory. -/
structure FileTree where
  entries : List (Location × Entry) := []
  deriving DecidableEq, Repr

namespace FileTree

def root : Location := ["/"]

/-- Whether a directory is at a place in any tree: the working directory and all above it. -/
def isGiven (place : Location) : Bool := place == root || place.all (· == "..")

def find? (t : FileTree) (place : Location) : Option Entry :=
  if isGiven place then some .directory else t.entries.lookup place

/-- The tree with an entry put at a place, before which there may have been another. -/
def put (t : FileTree) (place : Location) (entry : Entry) : FileTree :=
  { entries := (place, entry) :: t.entries.filter fun e => e.1 != place }

theorem find?_put_self (t : FileTree) {place : Location} (entry : Entry)
    (h : isGiven place = false) : (t.put place entry).find? place = some entry := by
  simp [find?, put, h]

theorem find?_put_of_ne (t : FileTree) {place other : Location} (entry : Entry)
    (h : other ≠ place) : (t.put place entry).find? other = t.find? other := by
  unfold find?
  split
  · rfl
  · rw [put]
    have hp : (other == place) = false := by simp [h]
    simp only [List.lookup_cons, hp]
    generalize t.entries = es
    induction es with
    | nil => rfl
    | cons e es ih =>
      by_cases he : e.1 = place
      · have hne : (other == e.1) = false := by simp [he, h]
        rw [List.filter_cons_of_neg (by simp [he]), ih, List.lookup_cons, hne]
      · rw [List.filter_cons_of_pos (by simp [he]), List.lookup_cons, List.lookup_cons, ih]

/-- How many bytes a name may have. -/
def maxName : Nat := 255

/-- How many bytes a path may have. -/
def maxPath : Nat := 4095

def names (path : String) : List String :=
  ((path.toList.splitOn '/').map String.ofList).filter (· != "")

/-- Where the walk along a path begins. -/
def origin (path : String) : Location := if path.startsWith "/" then root else []

/-- The place that a name leads to. Nothing is above the root. -/
def step (place : Location) (name : String) : Location :=
  if name = "." then place
  else if name = ".." then
    if place = root then root else if isGiven place then place ++ [".."] else place.dropLast
  else place ++ [name]

def walk (t : FileTree) (place : Location) : List String → Except FileError Location
  | [] => .ok place
  | name :: rest =>
    match t.find? place with
    | none => .error .notFound
    | some (.file _) => .error .notADirectory
    | some .directory =>
      if maxName < name.utf8ByteSize then .error .nameTooLong else t.walk (step place name) rest

/-- Why a path cannot name anything, if so. -/
def pathError? (path : String) : Option FileError :=
  if path = "" then some .notFound
  else if path.toList.contains '\x00' then some .noName
  else if maxPath < path.utf8ByteSize then some .nameTooLong
  else none

/-- The place that a path names, whether or not anything stands there. -/
def locate (t : FileTree) (path : String) : Except FileError Location :=
  match pathError? path with
  | some e => .error e
  | none => t.walk (origin path) (names path)

/-- What stands at a path. With a slash at its end it names a directory. -/
def lookup (t : FileTree) (path : String) : Except FileError Entry := do
  let place ← t.locate path
  match t.find? place with
  | none => throw .notFound
  | some .directory => return .directory
  | some (.file content) =>
    if path.endsWith "/" then throw .notADirectory else return .file content

def isThere (t : FileTree) (path : String) : Bool := (t.lookup path).toBool

def read (t : FileTree) (path : String) : Except FileError Bytes := do
  match ← t.lookup path with
  | .directory => throw .isADirectory
  | .file content => return content

/-- Writes a whole file; its directory has to be there. -/
def write (t : FileTree) (path : String) (content : Bytes) : Except FileError FileTree := do
  let place ← t.locate path
  if path.endsWith "/" || t.find? place == some .directory then throw .isADirectory
  else return t.put place (.file content)

/-- Makes the directories that names lead to, starting from a directory. -/
def makeDirectories (t : FileTree) (place : Location) :
    List String → FileTree × Except FileError Unit
  | [] => (t, .ok ())
  | name :: rest =>
    match t.find? (step place name) with
    | some .directory => t.makeDirectories (step place name) rest
    | some (.file _) => (t, .error (if rest.isEmpty then .alreadyExists else .notADirectory))
    | none =>
      if maxName < name.utf8ByteSize then (t, .error .nameTooLong)
      else (t.put (step place name) .directory).makeDirectories (step place name) rest

/-- Makes the directories on the way to a path, all but the last name. Dots are no names here. -/
def makeParents (t : FileTree) (path : String) : FileTree × Except FileError Unit :=
  let parents := ((names path).filter (· != ".")).dropLast
  match if parents.isEmpty then none else pathError? ("/".intercalate parents) with
  | some e => (t, .error e)
  | none => t.makeDirectories (origin path) parents

/-- Writes a whole file and makes the directories on the way to it. -/
def plant (t : FileTree) (path : String) (content : Bytes) : FileTree × Except FileError Unit :=
  match t.makeParents path with
  | (t, .error e) => (t, .error e)
  | (t, .ok _) =>
    match t.write path content with
    | .ok t => (t, .ok ())
    | .error e => (t, .error e)

def isBelow (place : Location) : Bool := !(place.head?.any fun name => name == "/" || name == "..")

def files (t : FileTree) : List (String × Bytes) :=
  t.entries.filterMap fun e =>
    match e.2 with
    | .file content => if isBelow e.1 then some ("/".intercalate e.1, content) else none
    | .directory => none

end FileTree

end FencedDiff
