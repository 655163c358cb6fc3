/-!
# Text for terminals

Text may hold control characters and the sequences by which terminals are controlled. Where no
terminal is there to follow them they are taken out, so that what is left is blanks and printable
characters. The sequences are those of ANSI terminals: an escape with a final character, control
sequences with parameters, commands that end with a bell, and strings for devices.

Text is printed in parts. A sequence may go on in the next part; what is left open at the end
swallows no more than the text itself.
-/

namespace TemplateInspector.Text

/-- Where in a sequence a terminal stands. -/
inductive TerminalState
  /-- In no sequence. -/
  | ground
  /-- After the escape character. -/
  | escape
  /-- After the escape character and an intermediate character. -/
  | escapeIntermediate
  /-- In a control sequence. -/
  | control
  /-- In a command, which a bell ends. -/
  | command
  /-- At the beginning of a string for a device. -/
  | deviceEntry
  /-- In the parameters of a string for a device. -/
  | deviceParameters
  /-- After an intermediate character before a string for a device. -/
  | deviceIntermediate
  /-- In a string for a device. -/
  | device
  deriving DecidableEq, Repr

/-- A character that is a blank even in the middle of a sequence. -/
def isControlBlank (c : Char) : Bool :=
  c = '\t' || c = '\n' || c = '\x0c' || c = '\r'

/-- A character that is printed outside of sequences. -/
def isPrintable (c : Char) : Bool :=
  isControlBlank c || (' ' ≤ c && c ≠ '\x7f')

/-- Whether the number of a character lies between two numbers. -/
def isBetween (low high : Nat) (c : Char) : Bool :=
  low ≤ c.toNat && c.toNat ≤ high

/-- Whether the byte `9c`, which ends a string for a device, is among the bytes of the UTF-8 form of
a character after the first. -/
def endsDevice (c : Char) : Bool :=
  let code := c.toNat
  0x80 ≤ code && code % 64 = 0x1c || 0x800 ≤ code && code / 64 % 64 = 0x1c ||
    0x10000 ≤ code && code / 4096 % 64 = 0x1c

namespace TerminalState

/-- Where a terminal stands after a character. -/
def next (state : TerminalState) (c : Char) : TerminalState :=
  if c = '\x18' || c = '\x1a' then ground
  else if c = '\x1b' then escape
  else match state with
    | ground => ground
    | escape =>
      if isBetween 0x20 0x2f c then escapeIntermediate
      else if c = '[' then control
      else if c = ']' then command
      else if c = 'P' then deviceEntry
      else if c = 'X' || c = '^' || c = '_' then device
      else if isBetween 0x30 0x7e c then ground else escape
    | escapeIntermediate => if isBetween 0x30 0x7e c then ground else escapeIntermediate
    | control => if isBetween 0x40 0x7e c then ground else control
    | command => if c = '\x07' then ground else command
    | deviceEntry =>
      if isBetween 0x20 0x2f c then deviceIntermediate
      else if isBetween 0x30 0x3f c then deviceParameters
      else if isBetween 0x40 0x7e c then device else deviceEntry
    | deviceParameters =>
      if isBetween 0x20 0x2f c then deviceIntermediate
      else if isBetween 0x3c 0x7e c then device else deviceParameters
    | deviceIntermediate => if isBetween 0x30 0x7e c then device else deviceIntermediate
    | device => if endsDevice c then ground else device

/-- Whether a character is printed at a state. -/
def prints (state : TerminalState) (c : Char) : Bool :=
  match state with
  | ground => isPrintable c
  | escape | escapeIntermediate | control => isControlBlank c
  | _ => false

end TerminalState

/-- Text without what controls a terminal, as far as it has been read. -/
structure Stripping where
  /-- What is printed, last first. -/
  shown : List Char := []
  /-- Where the terminal stands. -/
  state : TerminalState := .ground
  /-- Whether the last character was printed. Printable characters after it are printed as well,
  also where a blank was printed inside a sequence; only a character beyond ASCII then ends that. -/
  printing : Bool := false

namespace Stripping

/-- Reads a character. -/
def push (s : Stripping) (c : Char) : Stripping :=
  if s.printing && isPrintable c then
    { s with shown := c :: s.shown, state := if c.toNat < 0x80 then s.state else .ground }
  else if s.state.prints c then ⟨c :: s.shown, s.state.next c, true⟩
  else ⟨s.shown, s.state.next c, false⟩

/-- Reads a part of a text. -/
def pushPart (s : Stripping) (part : String) : Stripping :=
  part.toList.foldl push { s with printing := false }

end Stripping

/-- The text of some parts without what controls a terminal. -/
def strip (parts : List String) : String :=
  String.ofList (parts.foldl Stripping.pushPart {}).shown.reverse

end TemplateInspector.Text
