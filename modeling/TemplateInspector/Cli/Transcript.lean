import TemplateInspector.Cli.Error
import TemplateInspector.Controller.Basic
import TemplateInspector.Text.Terminal

/-!
# Transcripts

What a command prints, on its output and beside it, line by line. Lines are styled for a terminal,
and since nobody knows of one here, what controls a terminal is taken out of every line: its styles,
and what stands in the texts that it quotes. A style that ends before its line does closes any
sequence that such a text has left open.
-/

namespace TemplateInspector.Cli

/-- How a text looks on a terminal. -/
inductive Style
  | bold
  | dim
  | red
  | green
  | yellow
  | cyan
  deriving DecidableEq, Repr

namespace Style

/-- The sequence that begins a style. -/
def sequence : Style → String
  | bold => "\x1b[1m"
  | dim => "\x1b[2m"
  | red => "\x1b[31m"
  | green => "\x1b[32m"
  | yellow => "\x1b[33m"
  | cyan => "\x1b[36m"

/-- The sequence that ends every style. -/
def reset : String := "\x1b[0m"

/-- The parts of a text in a style. -/
def apply (style : Style) (parts : List String) : List String :=
  style.sequence :: parts ++ [reset]

/-- The style of the status of a generation. -/
def ofStatus (status : String) : Style :=
  if status = Status.success then green
  else if status = Status.compiling then cyan
  else if status = Status.ready then dim
  else if status = Status.errors then yellow
  else red

end Style

/-- What was printed. -/
structure Transcript where
  /-- The output. -/
  output : String := ""
  /-- What is said about the output. -/
  remarks : String := ""
  deriving DecidableEq, Repr

namespace Transcript

/-- Prints a line of some parts. -/
def print (t : Transcript) (parts : List String) : Transcript :=
  { t with output := t.output ++ Text.strip (parts ++ ["\n"]) }

/-- Says a line of some parts. -/
def say (t : Transcript) (parts : List String) : Transcript :=
  { t with remarks := t.remarks ++ Text.strip (parts ++ ["\n"]) }

/-- Prints a plain line. -/
def line (t : Transcript) (text : String) : Transcript :=
  t.print [text]

/-- Prints an empty line. -/
def blank (t : Transcript) : Transcript :=
  t.print []

/-- Prints a heading. -/
def heading (t : Transcript) (text : String) : Transcript :=
  t.print (Style.bold.apply [text])

/-- Prints a line of less weight. -/
def aside (t : Transcript) (text : String) : Transcript :=
  t.print (Style.dim.apply [text])

/-- Prints a line about something that is well. -/
def success (t : Transcript) (text : String) : Transcript :=
  t.print (Style.green.apply ["✓"] ++ [" "] ++ Style.green.apply [text])

/-- Prints a line about something that may not be well. -/
def warning (t : Transcript) (text : String) : Transcript :=
  t.print (Style.yellow.apply ["! ", text])

/-- Prints a value with its name. -/
def label (t : Transcript) (name value : String) : Transcript :=
  t.print (["  "] ++ Style.bold.apply [name, ":"] ++ [" ", value])

/-- Prints an item of a list, which is given by the parts of its text. -/
def item (t : Transcript) (parts : List String) : Transcript :=
  t.print ("  • " :: parts)

/-- Prints the items of a list. -/
def items (t : Transcript) (texts : List (List String)) : Transcript :=
  texts.foldl item t

/-- Says a plain line. -/
def remark (t : Transcript) (text : String) : Transcript :=
  t.say [text]

/-- Says the status of a generation. -/
def status (t : Transcript) (status : String) : Transcript :=
  t.say ((Style.ofStatus status).apply ["[", status, "]"])

/-- Says why a command did not succeed. -/
def error (t : Transcript) (error : CommandError) : Transcript :=
  t.say (Style.red.apply ("✗ " :: error.parts))

end Transcript

end TemplateInspector.Cli
