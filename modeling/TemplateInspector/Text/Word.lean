/-!
# Quoted words

A word as it can be given to a shell, which takes it for the same text. Texts are bytes, each taken
for the character that it numbers.
-/

namespace TemplateInspector.Text

/-- Whether a character can stand in a word anywhere without being quoted. -/
def isPlainInWord (c : Char) : Bool :=
  c.isAlphanum || "%+,-./:@_]".toList.contains c

/-- Whether a text is a word as it stands. -/
def isPlainWord (text : List Char) : Bool :=
  let isInner (c : Char) : Bool := isPlainInWord c || "#~\x7b\x7d".toList.contains c
  match text with
  | [] => false
  | [c] => isPlainInWord c
  | first :: rest => first ≠ '#' && first ≠ '~' && isInner first && rest.all isInner

/-- What is written for a character that cannot be printed. -/
def wordEscape? (c : Char) : Option (List Char) :=
  match c with
  | '\x07' => some ['\\', 'a']
  | '\x08' => some ['\\', 'b']
  | '\t' => some ['\\', 't']
  | '\n' => some ['\\', 'n']
  | '\x0b' => some ['\\', 'v']
  | '\x0c' => some ['\\', 'f']
  | '\r' => some ['\\', 'r']
  | c =>
    if c.toNat < 0x20 || 0x7f ≤ c.toNat then
      some ('\\' :: (Nat.toDigits 8 (512 + c.toNat)).drop 1)
    else none

/-- The characters of a word between quotes. `isEscaping` tells whether the quotes are open for
escapes. -/
def quoteCharacters (isEscaping : Bool) : List Char → List Char
  | [] => ['\'']
  | c :: rest =>
    match wordEscape? c with
    | some escape =>
      (if isEscaping then [] else ['\'', '$', '\'']) ++ escape ++ quoteCharacters true rest
    | none =>
      (if isEscaping then ['\'', '\''] else []) ++
        (if c = '\'' then ['\'', '\\', '\'', '\''] else [c]) ++ quoteCharacters false rest

/-- A word that stands for a text. It is quoted if it has to be, or always. -/
def quoteWord (isAlways : Bool) (text : List Char) : List Char :=
  if !isAlways && isPlainWord text then text
  else if text.contains '\'' && text.all fun c =>
      isPlainInWord c || "#~\x7b\x7d ".toList.contains c || c = '\'' then
    '"' :: text ++ ['"']
  else '\'' :: quoteCharacters false text

end TemplateInspector.Text
