namespace Contention.Text

inductive Sequence where
  | plain
  | escape
  /-- In an escape sequence that still wants its last character. -/
  | escapeTail
  | control
  | device
  | deviceParameters
  | deviceTail
  /-- In a string, which lasts until its terminator. -/
  | string
  /-- In an operating system command, which lasts until a bell. -/
  | command
deriving DecidableEq, Repr

/-- Blanks that are shown although they are control characters. -/
def isControlBlank (character : Char) : Bool :=
  character == '\t' || character == '\n' || character == '\x0c' || character == '\r'

/-- Outside of ASCII a character is encoded as several bytes.  One that has the
string terminator of eight bits among them ends a string. -/
def holdsTerminator (character : Char) : Bool :=
  let code := character.toNat
  (0x80 ≤ code && code % 64 == 28) || (0x800 ≤ code && code / 64 % 64 == 28) ||
    (0x10000 ≤ code && code / 4096 % 64 == 28)

namespace Sequence

def afterEscape (character : Char) : Sequence :=
  let code := character.toNat
  if code < 0x20 || 0x7f ≤ code then .escape
  else if code < 0x30 then .escapeTail
  else
    match character with
    | '[' => .control
    | ']' => .command
    | 'P' => .device
    | 'X' => .string
    | '^' => .string
    | '_' => .string
    | _ => .plain

def inDevice (sequence : Sequence) (character : Char) : Sequence :=
  let code := character.toNat
  if code < 0x20 || 0x7f ≤ code then sequence
  else if code < 0x30 then .deviceTail
  else if 0x40 ≤ code then .string
  else
    match sequence with
    | .device => .deviceParameters
    | .deviceParameters => if code < 0x3c then .deviceParameters else .string
    | _ => .string

/-- The sequence in which the next character stands.  An escape starts a new one
anywhere; two of the control characters break off any. -/
def after (sequence : Sequence) (character : Char) : Sequence :=
  let code := character.toNat
  if code = 0x1b then .escape
  else if code = 0x18 ∨ code = 0x1a then .plain
  else
    match sequence with
    | .plain => .plain
    | .escape => afterEscape character
    | .escapeTail => if 0x30 ≤ code ∧ code < 0x7f then .plain else .escapeTail
    | .control => if 0x40 ≤ code ∧ code < 0x7f then .plain else .control
    | .device => inDevice .device character
    | .deviceParameters => inDevice .deviceParameters character
    | .deviceTail => inDevice .deviceTail character
    | .string => if holdsTerminator character then .plain else .string
    | .command => if code = 0x07 then .plain else .command

def shows (sequence : Sequence) (character : Char) : Bool :=
  match sequence with
  | .plain =>
      isControlBlank character ||
        (0x20 ≤ character.toNat && character.toNat != 0x7f)
  | .escape => isControlBlank character
  | .escapeTail => isControlBlank character
  | .control => isControlBlank character
  | _ => false

end Sequence

/-- The characters that are shown, in order.  A run of them is `opened` until
the first character that is not shown outside of all sequences: a blank within a
sequence starts such a run, and the sequence goes on behind it. -/
def visibleFrom (opened : Bool) (sequence : Sequence) : List Char → List Char
  | [] => []
  | character :: rest =>
      if opened && Sequence.plain.shows character then
        let next := if character.toNat < 0x80 then sequence else .plain
        character :: visibleFrom true next rest
      else if sequence.shows character then
        character :: visibleFrom true (sequence.after character) rest
      else visibleFrom false (sequence.after character) rest

def visible (text : String) : String :=
  String.ofList (visibleFrom false .plain text.toList)

/-- A part of a page.  One that is set apart has a style of its own, and no
control sequence reaches across its bounds. -/
inductive Piece where
  | plain (text : String)
  | apart (text : String)
deriving DecidableEq, Repr

def visibleBehind (text : String) : List Piece → String
  | [] => visible text
  | .plain more :: rest => visibleBehind (text ++ more) rest
  | .apart inner :: rest => visible text ++ visible inner ++ visibleBehind "" rest

def visiblePage (pieces : List Piece) : String := visibleBehind "" pieces

end Contention.Text
