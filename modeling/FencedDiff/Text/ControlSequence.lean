/-!
# Text without control sequences

What the command reports is plain text: sequences that a terminal would obey are left out of it, and
so are controls other than white space. A sequence begins with ESC. It ends with a letter or a mark,
which one depends on what follows ESC; a sequence that holds a string ends with the string's own
terminator. Once a character has been shown, all that follows is shown as far as the next control,
whatever state a sequence was in.
-/

namespace FencedDiff

inductive ControlState where
  /-- Outside of any. -/
  | ground
  /-- Behind ESC. -/
  | escape
  /-- Behind ESC and intermediate characters. -/
  | escapeIntermediate
  /-- In a sequence with parameters. -/
  | parameters
  /-- At the beginning of a device control string. -/
  | deviceEntry
  /-- In the parameters of a device control string. -/
  | deviceParameters
  /-- In the intermediate characters of a device control string. -/
  | deviceIntermediate
  /-- In a string that a string terminator ends. -/
  | string
  /-- In a string that BEL ends. -/
  | command
  deriving DecidableEq, Repr

namespace ControlState

/-- Whether a character is white space of ASCII but the vertical tab. -/
def isSpace (c : Char) : Bool := c == ' ' || c == '\t' || c == '\n' || c == '\x0c' || c == '\r'

def shows (s : ControlState) (c : Char) : Bool :=
  match s with
  | .ground => 0x80 ≤ c.toNat || (0x20 ≤ c.toNat && c.toNat ≤ 0x7E) || isSpace c
  | .escape | .escapeIntermediate | .parameters => isSpace c && c != ' '
  | _ => false

def within (low high : Nat) (c : Char) : Bool := low ≤ c.toNat && c.toNat ≤ high

/-- Whether a string terminator is part of the encoding of a character. -/
def endsString (c : Char) : Bool := (String.utf8EncodeChar c).contains 0x9C

def behindEscape (c : Char) : ControlState :=
  if within 0x20 0x2F c then .escapeIntermediate
  else if c = '[' then .parameters
  else if c = ']' then .command
  else if c = 'P' then .deviceEntry
  else if c = 'X' ∨ c = '^' ∨ c = '_' then .string
  else if within 0x30 0x7E c then .ground
  else .escape

def next (s : ControlState) (c : Char) : ControlState :=
  if c = '\x1b' then .escape
  else if c = '\x18' ∨ c = '\x1a' then .ground
  else
    match s with
    | .ground => .ground
    | .escape => behindEscape c
    | .escapeIntermediate => if within 0x30 0x7E c then .ground else s
    | .parameters => if within 0x40 0x7E c then .ground else s
    | .deviceEntry =>
      if within 0x20 0x2F c then .deviceIntermediate
      else if within 0x30 0x3F c then .deviceParameters
      else if within 0x40 0x7E c then .string
      else s
    | .deviceParameters =>
      if within 0x20 0x2F c then .deviceIntermediate
      else if within 0x3C 0x7E c then .string
      else s
    | .deviceIntermediate => if within 0x30 0x7E c then .string else s
    | .string => if endsString c then .ground else s
    | .command => if c = '\x07' then .ground else s

/-- The characters that are shown; `shown` says whether the one before was, and `done` are those so
far, in reverse. -/
def visible (shown : Bool) (s : ControlState) (done : List Char) : List Char → List Char
  | [] => done.reverse
  | c :: rest =>
    if shows (if shown then .ground else s) c then
      visible true (if c.toNat < 0x80 then s else .ground) (c :: done) rest
    else visible false (next s c) done rest

theorem visible_of_forall_shows {cs : List Char} (h : ∀ c ∈ cs, shows .ground c = true)
    (shown : Bool) (done : List Char) : visible shown .ground done cs = done.reverse ++ cs := by
  induction cs generalizing shown done with
  | nil => simp [visible]
  | cons c rest ih =>
    have hc : shows (if shown then .ground else .ground) c = true := by
      simpa using h c (by simp)
    rw [visible, if_pos hc, ite_self, ih fun d hd => h d (by simp [hd])]
    simp

end ControlState

def withoutControls (text : String) : String :=
  String.ofList (ControlState.visible false .ground [] text.toList)

theorem withoutControls_of_forall_shows {text : String}
    (h : ∀ c ∈ text.toList, ControlState.shows .ground c = true) :
    withoutControls text = text := by
  simp [withoutControls, ControlState.visible_of_forall_shows h]

end FencedDiff
