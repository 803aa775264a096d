import FencedDiff.Toml.Scalar

/-!
# TOML strings

A string stands between quotation marks, in which a backslash begins an escape, or between
apostrophes, which take everything literally; one mark on each side for a string on one line, three
for one that may go over several. Where a string ends is settled before what is in it is read: a
string that is not closed ends with its line, or with the text if its marks are three.
-/

namespace FencedDiff.Toml

def isBlankChar (c : Char) : Bool := c == ' ' || c == '\t'

/-- Control characters other than the tab, which stand nowhere in a document but at the ends of
lines. -/
def isForbidden (c : Char) : Bool := (c.toNat < 0x20 && c != '\t') || c == '\x7f'

def letterEscape? (c : Char) : Option Char :=
  if c = 'b' then some '\x08'
  else if c = 't' then some '\t'
  else if c = 'n' then some '\n'
  else if c = 'f' then some '\x0c'
  else if c = 'r' then some '\r'
  else if c = 'e' then some '\x1b'
  else if c = '"' then some '"'
  else if c = '\\' then some '\\'
  else none

/-- The number of hexadecimal digits of an escape that begins with this letter; 0 for others. -/
def escapeDigits (c : Char) : Nat :=
  if c = 'x' then 2 else if c = 'u' then 4 else if c = 'U' then 8 else 0

/-- The number that hexadecimal digits give, as the rest of one that begins with `high`. -/
def hexNumber? (high : Nat) : List Char → Option Nat
  | [] => some high
  | c :: rest =>
    match digitValue? 16 c with
    | some d => hexNumber? (high * 16 + d) rest
    | none => none

/-- Reads the number of an escape, which has `count` hexadecimal digits. -/
def numberEscape (count : Nat) (cs : List Char) : Except Malformed (Char × List Char) :=
  if (cs.take count).length = count then
    match hexNumber? 0 (cs.take count) with
    | some n => if n.isValidChar then .ok (Char.ofNat n, cs.drop count) else .error .noCharacter
    | none => .error .other
  else .error .other

/-- Reads what stands behind a backslash. -/
def escape : List Char → Except Malformed (Char × List Char)
  | [] => .error .other
  | c :: rest =>
    match letterEscape? c with
    | some d => .ok (d, rest)
    | none => if escapeDigits c = 0 then .error .other else numberEscape (escapeDigits c) rest

theorem length_lt_of_escape {cs : List Char} {c : Char} {rest : List Char}
    (h : escape cs = .ok (c, rest)) : rest.length < cs.length := by
  cases cs with
  | nil => simp [escape] at h
  | cons d cs =>
    simp only [escape, numberEscape] at h
    split at h
    · simp only [Except.ok.injEq, Prod.mk.injEq] at h
      simp [h.2]
    · split at h
      · simp at h
      · split at h
        · split at h
          · split at h
            · simp only [Except.ok.injEq, Prod.mk.injEq] at h
              rw [← h.2]
              simp only [List.length_drop, List.length_cons]
              omega
            · simp at h
          · simp at h
        · simp at h

/-! ## The extent of a string -/

structure Quotation where
  /-- Which mark it has, a quotation mark or an apostrophe. -/
  mark : Char
  /-- Whether three marks stand on each side. -/
  isLong : Bool
  /-- What comes behind the opening marks, with the closing ones if they are there. -/
  body : List Char
  deriving Repr

/-- Cuts a string on one line behind its closing mark, or at the end of its line. A backslash
between quotation marks keeps a mark from closing; `done` is what is cut so far, in reverse. -/
def cutShort (mark : Char) (done : List Char) : List Char → List Char × List Char
  | [] => (done.reverse, [])
  | c :: rest =>
    if c = '\n' then (done.reverse, c :: rest)
    else if c = mark then ((c :: done).reverse, rest)
    else if c = '\\' ∧ mark = '"' then
      match rest with
      | [] => ((c :: done).reverse, [])
      | d :: after =>
        if d = '"' ∨ d = '\\' then cutShort mark (d :: c :: done) after
        else cutShort mark (c :: done) (d :: after)
    else cutShort mark (c :: done) rest

/-- Cuts a string behind its three closing marks, before which up to two more belong to it. -/
def cutLong (mark : Char) (done : List Char) : List Char → List Char × List Char
  | [] => (done.reverse, [])
  | c :: rest =>
    let marks := ((c :: rest).takeWhile (· == mark)).take 5
    if 3 ≤ marks.length then ((marks ++ done).reverse, (c :: rest).drop marks.length)
    else if c = '\\' ∧ mark = '"' then
      match rest with
      | [] => ((c :: done).reverse, [])
      | d :: after =>
        if d = '"' ∨ d = '\\' then cutLong mark (d :: c :: done) after
        else cutLong mark (c :: done) (d :: after)
    else cutLong mark (c :: done) rest

def quotation? : List Char → Option (Quotation × List Char)
  | [] => none
  | mark :: rest =>
    if mark = '"' ∨ mark = '\'' then
      match rest with
      | b :: c :: body =>
        if b = mark ∧ c = mark then
          let cut := cutLong mark [] body
          some (⟨mark, true, cut.1⟩, cut.2)
        else
          let cut := cutShort mark [] rest
          some (⟨mark, false, cut.1⟩, cut.2)
      | _ =>
        let cut := cutShort mark [] rest
        some (⟨mark, false, cut.1⟩, cut.2)
    else none

/-! ## What is in a string -/

/-- Reads what stands between quotation marks on one line; `done` are the characters so far, in
reverse. -/
def basicText (done : List Char) (cs : List Char) : Except Malformed (List Char) :=
  match cs with
  | [] => .ok done.reverse
  | c :: rest =>
    if c = '\\' then
      match _h : escape rest with
      | .ok (d, after) => basicText (d :: done) after
      | .error e => .error e
    else if isForbidden c then .error .other
    else basicText (c :: done) rest
termination_by cs.length
decreasing_by
  · have := length_lt_of_escape _h
    simp only [List.length_cons]
    omega
  · simp

/-- Whether white space is being skipped behind a backslash at the end of a line. -/
inductive Folding where
  /-- No. -/
  | off
  /-- Yes, and the line has to end yet. -/
  | sameLine
  /-- Yes, on the lines after. -/
  | nextLines
  deriving DecidableEq, Repr

/-- Reads what stands between quotation marks on several lines. -/
def longBasicText (folding : Folding) (done : List Char) (cs : List Char) :
    Except Malformed (List Char) :=
  match cs with
  | [] => if folding = .sameLine then .error .other else .ok done.reverse
  | c :: rest =>
    if c = '\n' then
      if folding = .off then longBasicText .off (c :: done) rest
      else longBasicText .nextLines done rest
    else if c = '\r' then
      if rest.head? = some '\n' then
        longBasicText folding (if folding = .off then c :: done else done) rest
      else .error .other
    else if folding ≠ .off ∧ isBlankChar c then longBasicText folding done rest
    else if folding = .sameLine then .error .other
    else if c = '\\' then
      if rest.head?.any fun d => isBlankChar d || d == '\n' || d == '\r' then
        longBasicText .sameLine done rest
      else
        match _h : escape rest with
        | .ok (d, after) => longBasicText .off (d :: done) after
        | .error e => .error e
    else if isForbidden c then .error .other
    else longBasicText .off (c :: done) rest
termination_by cs.length
decreasing_by
  all_goals first
    | (have hlt := length_lt_of_escape _h; simp only [List.length_cons]; omega)
    | simp

/-- Whether these characters can stand between apostrophes; on several lines, newlines can too. -/
def isLiteral (several : Bool) : List Char → Bool
  | [] => true
  | c :: rest =>
    (if several && c == '\n' then true
     else if several && c == '\r' then rest.head? == some '\n'
     else !isForbidden c) && isLiteral several rest

/-- A newline right behind the opening marks does not belong to the string. -/
def dropFirstNewline : List Char → List Char
  | '\n' :: rest => rest
  | '\r' :: '\n' :: rest => rest
  | cs => cs

/-- What stands between the marks, if the closing ones are there. -/
def Quotation.inner? (q : Quotation) : Option (List Char) :=
  let closing := List.replicate (if q.isLong then 3 else 1) q.mark
  if closing.isSuffixOf q.body then
    let cs := q.body.take (q.body.length - closing.length)
    some (if q.isLong then dropFirstNewline cs else cs)
  else none

def Quotation.text (q : Quotation) : Except Malformed String :=
  match q.inner? with
  | none => .error .other
  | some cs =>
    if q.mark = '\'' then
      if isLiteral q.isLong cs then .ok (String.ofList cs) else .error .other
    else (if q.isLong then longBasicText .off [] cs else basicText [] cs).map String.ofList

end FencedDiff.Toml
