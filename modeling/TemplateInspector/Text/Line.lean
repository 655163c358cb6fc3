/-!
# Lines and offsets

A line ends with a line feed; a carriage return directly before the line feed belongs to the line
end. Offsets into a text count the bytes of its UTF-8 form, lines count from one.
-/

namespace TemplateInspector.Text

/-- The number of bytes in the UTF-8 form of some characters. -/
def byteLength (cs : List Char) : Nat :=
  (cs.map Char.utf8Size).foldl (· + ·) 0

/-- A finished line, given last character first, without the carriage return of its line end. -/
def finishLine : List Char → List Char
  | '\r' :: run => run.reverse
  | run => run.reverse

/-- The lines of the characters that follow `run`, the reversed start of the current line. -/
def linesAfter (run : List Char) : List Char → List (List Char)
  | [] => if run.isEmpty then [] else [run.reverse]
  | c :: rest =>
    if c = '\n' then finishLine run :: linesAfter [] rest else linesAfter (c :: run) rest

/-- The lines of some characters, without line ends. The end of the text ends the last line, which
is dropped when it is empty. -/
def lineChars (cs : List Char) : List (List Char) :=
  linesAfter [] cs

/-- The lines of a text. -/
def lines (s : String) : List String :=
  (lineChars s.toList).map String.ofList

/-- The number of the line that holds the byte offset `offset`: one more than the line feeds before
it. -/
def lineAt : List Char → Nat → Nat
  | [], _ => 1
  | c :: rest, offset =>
    if offset = 0 then 1
    else (if c = '\n' then 1 else 0) + lineAt rest (offset - c.utf8Size)

end TemplateInspector.Text
