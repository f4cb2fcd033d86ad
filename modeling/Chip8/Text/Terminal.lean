/-
# Text for a terminal

A terminal is told about colours and titles by sequences of characters between
those that it shows. Where there is no terminal, all of it has to go: the
sequences, whoever wrote them, and the controls that only ring or move. What is
left are the characters that are shown, and the controls that part words and
lines.

A sequence starts with the escape character, which also breaks off the sequence
before it, as do two other controls. What follows decides its kind. A command ends
with a letter or a sign of that part of the alphabet; a title ends with the bell;
a string for the device goes on until a byte that may stand for its end also
inside the encoding of a character. One kind of string has a header of numbers and
signs in front; as long as a string is in its header, it has no end. A control
that parts words or lines ends a command too, and is shown.

Where a text goes on after such a control, two readings differ. A whole text is
read afresh from there. A stream keeps the sequence in mind: what is shown for itself
is shown, but a control that is not shown goes to the sequence, which then goes on,
unless a character beyond ASCII came first.
-/

namespace Chip8.Text

/-- How far a terminal is with a sequence. -/
inductive TerminalMode where
  /-- It shows what comes. -/
  | plain
  /-- The escape character was there. -/
  | escape
  /-- An escape with signs behind it. -/
  | intermediate
  /-- A command with numbers. -/
  | command
  /-- A title or another setting. -/
  | title
  /-- A string for the device, of which nothing was there yet. -/
  | header
  /-- A string for the device, in the numbers of its header. -/
  | headerNumbers
  /-- A string for the device, in the signs of its header. -/
  | headerSigns
  /-- A string for the device. -/
  | string
  deriving DecidableEq, Repr

namespace TerminalMode

/-- The escape character. -/
def escapeChar : Char := '\x1b'

/-- The controls that part words and lines. -/
def isSeparator (c : Char) : Bool :=
  c == '\t' || c == '\n' || c == '\x0c' || c == '\r'

/-- Whether a character is shown. -/
def shows (mode : TerminalMode) (c : Char) : Bool :=
  match mode with
  | .plain => isSeparator c || (0x20 ≤ c.toNat && c != '\x7f')
  | .escape | .intermediate | .command => isSeparator c
  | .title | .header | .headerNumbers | .headerSigns | .string => false

/-- Whether a byte of the encoding of a character ends a string for the device. -/
def endsString (c : Char) : Bool :=
  0x80 ≤ c.toNat && (String.utf8EncodeChar c).contains 0x9c

/-- What a character of the alphabet, a digit or a sign makes of a sequence. -/
def afterSign (mode : TerminalMode) (c : Char) : TerminalMode :=
  let isEarlySign := c.toNat ≤ 0x2f
  let isNumber := 0x30 ≤ c.toNat && c.toNat ≤ 0x3b
  let isMark := 0x3c ≤ c.toNat && c.toNat ≤ 0x3f
  match mode with
  | .plain => .plain
  | .escape =>
      if c == '[' then .command
      else if c == ']' then .title
      else if c == 'P' then .header
      else if c == 'X' || c == '^' || c == '_' then .string
      else if isEarlySign then .intermediate
      else .plain
  | .intermediate => if isEarlySign then .intermediate else .plain
  | .command => if isEarlySign || isNumber || isMark then .command else .plain
  | .title => .title
  | .header =>
      if isEarlySign then .headerSigns
      else if isNumber || isMark then .headerNumbers
      else .string
  | .headerNumbers =>
      if isEarlySign then .headerSigns
      else if isNumber then .headerNumbers
      else .string
  | .headerSigns => if isEarlySign then .headerSigns else .string
  | .string => .string

/-- What a character makes of a terminal that does not show it. -/
def after (mode : TerminalMode) (c : Char) : TerminalMode :=
  let n := c.toNat
  if c == escapeChar then .escape
  else if n == 0x18 || n == 0x1a then .plain
  else if mode == .title && c == '\x07' then .plain
  else if mode == .string && endsString c then .plain
  else if 0x20 ≤ n && n ≤ 0x7e then mode.afterSign c
  else mode

/-- The characters of a text that are shown. One that is shown ends the sequence
before it. -/
def shown : TerminalMode → List Char → List Char
  | _, [] => []
  | mode, c :: rest =>
      if mode.shows c then c :: shown .plain rest else shown (mode.after c) rest

/-- The characters of a stream that are shown. Behind one that is shown, more are
shown as if there were no sequence; only a character beyond ASCII ends it. -/
def shownOnStream (running : Bool) : TerminalMode → List Char → List Char
  | _, [] => []
  | mode, c :: rest =>
      if mode.shows c || (running && TerminalMode.plain.shows c) then
        c :: shownOnStream true (if c.toNat < 0x80 then mode else .plain) rest
      else shownOnStream false (mode.after c) rest

end TerminalMode

/-- What is shown of a text. -/
def withoutEscapes (text : String) : String :=
  String.ofList (TerminalMode.shown .plain text.toList)

/-- What is shown of a text on a stream. -/
def streamed (text : String) : String :=
  String.ofList (TerminalMode.shownOnStream false .plain text.toList)

/-- Text in colour or weight: a sequence with a number in front, and one that takes
it back behind. -/
def styled (style : Nat) (text : String) : String :=
  s!"\x1b[{style}m{text}\x1b[0m"

end Chip8.Text
