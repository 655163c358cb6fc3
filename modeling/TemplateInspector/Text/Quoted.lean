/-!
# Escaped text in double quotes

The text of a string literal as it stands between double quotes: backslash, double quote, line feed,
carriage return and tab are written as a backslash and a letter or the character itself, and every
other character stands for itself. The escapes are the ones that the string literals of all target
languages share. `unescapeChars?` reads them back and `splitLiteral?` scans for the closing quote.
-/

namespace TemplateInspector.Text

/-- The written form of one character of a string literal. -/
def escapeChar (c : Char) : List Char :=
  if c = '\\' then ['\\', '\\']
  else if c = '"' then ['\\', '"']
  else if c = '\n' then ['\\', 'n']
  else if c = '\r' then ['\\', 'r']
  else if c = '\t' then ['\\', 't']
  else [c]

/-- The written form of the characters of a string literal. -/
def escapeChars (cs : List Char) : List Char :=
  cs.flatMap escapeChar

/-- The written form of a text between double quotes. -/
def escape (s : String) : String :=
  String.ofList (escapeChars s.toList)

/-- The character that a backslash and `c` stand for. -/
def escapedChar? (c : Char) : Option Char :=
  if c = '\\' then some '\\'
  else if c = '"' then some '"'
  else if c = 'n' then some '\n'
  else if c = 'r' then some '\r'
  else if c = 't' then some '\t'
  else none

/-- Reads escapes back; `none` for a backslash that begins no escape. -/
def unescapeChars? : List Char → Option (List Char)
  | [] => some []
  | [c] => if c = '\\' then none else some [c]
  | c :: d :: rest =>
    if c = '\\' then do
      let e ← escapedChar? d
      let text ← unescapeChars? rest
      return e :: text
    else (unescapeChars? (d :: rest)).map (c :: ·)

/-- The written form of a character is read back as that character. -/
theorem unescapeChars?_escapeChar_append (c : Char) (rest : List Char) :
    unescapeChars? (escapeChar c ++ rest) = (unescapeChars? rest).map (c :: ·) := by
  unfold escapeChar
  split
  · subst c; cases h : unescapeChars? rest <;> simp [unescapeChars?, escapedChar?, h]
  split
  · subst c; cases h : unescapeChars? rest <;> simp [unescapeChars?, escapedChar?, h]
  split
  · subst c; cases h : unescapeChars? rest <;> simp [unescapeChars?, escapedChar?, h]
  split
  · subst c; cases h : unescapeChars? rest <;> simp [unescapeChars?, escapedChar?, h]
  split
  · subst c; cases h : unescapeChars? rest <;> simp [unescapeChars?, escapedChar?, h]
  · rename_i hb _ _ _ _
    cases rest <;> simp [unescapeChars?, hb]

/-- What is written is read back. -/
theorem unescapeChars?_escapeChars (cs : List Char) :
    unescapeChars? (escapeChars cs) = some cs := by
  induction cs with
  | nil => rfl
  | cons c cs ih =>
    rw [escapeChars, List.flatMap_cons, unescapeChars?_escapeChar_append, ← escapeChars, ih]
    rfl

/-- Divides the text after an opening quote at its closing quote: what stands between the quotes
and what follows. A backslash takes the character after it along. -/
def splitLiteral? : List Char → Option (List Char × List Char)
  | [] => none
  | '"' :: rest => some ([], rest)
  | ['\\'] => none
  | c :: d :: rest =>
    if c = '\\' then (splitLiteral? rest).map fun (inner, after) => (c :: d :: inner, after)
    else (splitLiteral? (d :: rest)).map fun (inner, after) => (c :: inner, after)
  | [_] => none

end TemplateInspector.Text
