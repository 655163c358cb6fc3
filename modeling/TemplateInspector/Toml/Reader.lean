import TemplateInspector.Toml.Document
import TemplateInspector.Toml.Scalar

/-!
# Reading TOML

The reader takes a document line by line: comments, headers of tables, and keys with values. Inline
tables may stretch over lines and end in a comma. A string on several lines keeps its line ends as
they are written. Values nest, and keys have parts, up to a limit.
-/

namespace TemplateInspector.Toml

/-- Whether a character may stand in a comment or, unescaped, in a string on one line. -/
def isPlain (c : Char) : Bool :=
  c = '\t' || (0x20 ≤ c.toNat && c.toNat ≠ 0x7f)

/-- The text after spaces and tabs. -/
def skipSpaces (input : List Char) : List Char :=
  input.dropWhile fun c => c = ' ' || c = '\t'

/-- The text after a comment, if there is one here; none if a control character is in it. -/
def skipComment? : List Char → Option (List Char)
  | '#' :: rest =>
    match rest.dropWhile isPlain with
    | [] => some []
    | '\n' :: rest => some ('\n' :: rest)
    | '\r' :: '\n' :: rest => some ('\r' :: '\n' :: rest)
    | _ => none
  | input => some input

/-- The text after a line end, if there is one here. -/
def lineEnd? : List Char → Option (List Char)
  | '\n' :: rest => some rest
  | '\r' :: '\n' :: rest => some rest
  | _ => none

/-- The text after blanks, comments and line ends. `fuel` bounds the number of lines. -/
def skipLines? : Nat → List Char → Option (List Char)
  | 0, input => some input
  | fuel + 1, input => do
    let input ← skipComment? (skipSpaces input)
    match lineEnd? input with
    | some rest => skipLines? fuel rest
    | none => some input

/-- The text after the rest of a line, on which nothing but a comment may follow. -/
def endLine? (input : List Char) : Option (List Char) := do
  let input ← skipComment? (skipSpaces input)
  if input.isEmpty then some [] else lineEnd? input

/-- The character with a code point, unless that is a surrogate or too great. -/
def codePoint? (code : Nat) : Option Char :=
  if code < 0xd800 ∨ (0xe000 ≤ code ∧ code < 0x110000) then some (Char.ofNat code) else none

/-- Reads a code point of `count` hexadecimal digits. -/
def hexEscape? (count : Nat) (input : List Char) : Option (Char × List Char) := do
  let digits := input.take count
  if digits.length = count && digits.all isHexDigit then
    let c ← codePoint? (digits.foldl (fun n c => 16 * n + digitValue c) 0)
    some (c, input.drop count)
  else none

/-- Reads an escape from behind its backslash. -/
def escape? : List Char → Option (Char × List Char)
  | 'b' :: rest => some ('\x08', rest)
  | 't' :: rest => some ('\t', rest)
  | 'n' :: rest => some ('\n', rest)
  | 'f' :: rest => some ('\x0c', rest)
  | 'r' :: rest => some ('\r', rest)
  | 'e' :: rest => some ('\x1b', rest)
  | '"' :: rest => some ('"', rest)
  | '\\' :: rest => some ('\\', rest)
  | 'x' :: rest => hexEscape? 2 rest
  | 'u' :: rest => hexEscape? 4 rest
  | 'U' :: rest => hexEscape? 8 rest
  | _ => none

/-- Reads a string on one line from behind its opening quote. Only the double quote has escapes. -/
def lineString? (quote : Char) : Nat → List Char → List Char → Option (List Char × List Char)
  | 0, _, _ => none
  | _, _, [] => none
  | fuel + 1, run, c :: rest =>
    if c = quote then some (run.reverse, rest)
    else if c = '\\' && quote = '"' then
      match escape? rest with
      | some (c, rest) => lineString? quote fuel (c :: run) rest
      | none => none
    else if isPlain c then lineString? quote fuel (c :: run) rest
    else none

/-- The text after blanks and line ends. -/
def skipBlankLines : List Char → List Char
  | [] => []
  | '\r' :: '\n' :: rest => skipBlankLines rest
  | c :: rest => if c = ' ' || c = '\t' || c = '\n' then skipBlankLines rest else c :: rest

/-- The text after a backslash that ends a line: blanks and line ends are passed over. None if the
line does not end here. -/
def joinLines? (input : List Char) : Option (List Char) :=
  (lineEnd? (skipSpaces input)).map skipBlankLines

/-- Reads a string on several lines from behind its opening quotes. Up to two quotes may stand
directly before the closing ones. -/
def blockString? (quote : Char) : Nat → List Char → List Char → Option (List Char × List Char)
  | 0, _, _ => none
  | _, _, [] => none
  | fuel + 1, run, c :: rest =>
    if c = quote then
      let quotes := (c :: rest).takeWhile (· = quote)
      let after := (c :: rest).dropWhile (· = quote)
      if quotes.length < 3 then blockString? quote fuel (quotes ++ run) after
      else if quotes.length ≤ 5 then some ((quotes.drop 3 ++ run).reverse, after)
      else none
    else if c = '\\' && quote = '"' then
      match joinLines? rest with
      | some rest => blockString? quote fuel run rest
      | none =>
        match escape? rest with
        | some (c, rest) => blockString? quote fuel (c :: run) rest
        | none => none
    else if c = '\r' then
      match rest with
      | '\n' :: rest => blockString? quote fuel ('\n' :: '\r' :: run) rest
      | _ => none
    else if c = '\n' || isPlain c then blockString? quote fuel (c :: run) rest
    else none

/-- The text after a line end that directly follows the opening quotes of a string. -/
def dropFirstLineEnd (input : List Char) : List Char :=
  (lineEnd? input).getD input

/-- Reads a string, if there is one here. -/
def string? (input : List Char) : Option (List Char × List Char) :=
  match input with
  | '"' :: '"' :: '"' :: rest => blockString? '"' (rest.length + 1) [] (dropFirstLineEnd rest)
  | '\'' :: '\'' :: '\'' :: rest => blockString? '\'' (rest.length + 1) [] (dropFirstLineEnd rest)
  | '"' :: rest => lineString? '"' (rest.length + 1) [] rest
  | '\'' :: rest => lineString? '\'' (rest.length + 1) [] rest
  | _ => none

/-- Whether a character may stand in a key without quotes. -/
def isKeyChar (c : Char) : Bool :=
  c.isAlphanum || c = '-' || c = '_'

/-- Reads one part of a key. -/
def keyPart? (input : List Char) : Option (String × List Char) :=
  match input with
  | '"' :: rest =>
    (lineString? '"' (rest.length + 1) [] rest).map fun (s, rest) => (String.ofList s, rest)
  | '\'' :: rest =>
    (lineString? '\'' (rest.length + 1) [] rest).map fun (s, rest) => (String.ofList s, rest)
  | input =>
    let part := input.takeWhile isKeyChar
    if part.isEmpty then none else some (String.ofList part, input.dropWhile isKeyChar)

/-- How deep arrays and inline tables may nest, and how many parts a key may have. -/
def maxDepth : Nat := 80

/-- Reads a key with dots between its parts, and the blanks after it. `parts` bounds the number of
its parts. -/
def keyParts? : Nat → List Char → Option (List String × List Char)
  | 0, _ => none
  | parts + 1, input => do
    let (part, rest) ← keyPart? input
    match skipSpaces rest with
    | '.' :: rest =>
      let (others, rest) ← keyParts? parts (skipSpaces rest)
      return (part :: others, rest)
    | rest => return ([part], rest)

/-- Reads a key with dots between its parts, and the blanks after it. -/
def key? (input : List Char) : Option (List String × List Char) :=
  keyParts? maxDepth input

/-- The scalar without quotes at the beginning of a text. A date and a time may have one space
between them. -/
def scalarText (input : List Char) : List Char × List Char :=
  let first := input.takeWhile isScalarChar
  let rest := input.dropWhile isScalarChar
  match rest with
  | ' ' :: more =>
    if (date? first) = some [] && (more.head?.any Char.isDigit) then
      (first ++ ' ' :: more.takeWhile isScalarChar, more.dropWhile isScalarChar)
    else (first, rest)
  | _ => (first, rest)

mutual

/-- Reads a value. `levels` is how deep arrays and inline tables may nest in it, and `fuel` bounds
the number of nested steps. -/
def value? : Nat → Nat → List Char → Option (Toml × List Char)
  | 0, _, _ => none
  | fuel + 1, levels, input =>
    match input with
    | [] => none
    | c :: rest =>
      if c = '"' || c = '\'' then
        (string? input).map fun (s, rest) => (.string (String.ofList s), rest)
      else if c = '[' then
        if levels = 0 then none
        else (arrayItems? fuel (levels - 1) [] rest).map fun (items, rest) => (.array items, rest)
      else if c = '\x7b' then
        if levels = 0 then none
        else (inlineFields? fuel (levels - 1) [] rest).map fun (fields, rest) =>
          (.table (closeFields fields), rest)
      else
        let (text, rest) := scalarText input
        (scalar? text).map fun value => (value, rest)

/-- Reads the items of an array up to its end, with the items so far, last first. -/
def arrayItems? : Nat → Nat → List Toml → List Char → Option (List Toml × List Char)
  | 0, _, _, _ => none
  | fuel + 1, levels, run, input => do
    match ← skipLines? (input.length + 1) input with
    | ']' :: rest => return (run.reverse, rest)
    | input =>
      let (item, rest) ← value? fuel levels input
      match ← skipLines? (rest.length + 1) rest with
      | ',' :: rest => arrayItems? fuel levels (item :: run) rest
      | ']' :: rest => return ((item :: run).reverse, rest)
      | _ => none

/-- Reads the fields of an inline table up to its end, with the fields so far. Blanks, comments and
line ends may stand around keys, values and the signs between them. -/
def inlineFields? : Nat → Nat → Fields → List Char → Option (Fields × List Char)
  | 0, _, _, _ => none
  | fuel + 1, levels, fields, input => do
    match ← skipLines? (input.length + 1) input with
    | '\x7d' :: rest => return (fields, rest)
    | input =>
      let (path, rest) ← key? input
      let '=' :: rest ← skipLines? (rest.length + 1) rest | none
      let (value, rest) ← value? fuel levels (← skipLines? (rest.length + 1) rest)
      let key ← path.getLast?
      let fields ← fields.define path.dropLast key value
      match ← skipLines? (rest.length + 1) rest with
      | ',' :: rest => inlineFields? fuel levels fields rest
      | '\x7d' :: rest => return (fields, rest)
      | _ => none

end

/-- A document that has been read in part. -/
structure Draft where
  /-- The path of the header that was read last. -/
  header : List String := []
  /-- What was defined. -/
  fields : Fields := []
  /-- The text that has not been read. -/
  rest : List Char

/-- Reads the next statement of a document; the inner `none` marks the end of the text. -/
def statement? (draft : Draft) : Option (Option Draft) := do
  match ← skipLines? (draft.rest.length + 1) draft.rest with
  | [] => return none
  | '[' :: '[' :: rest =>
    let (path, rest) ← key? (skipSpaces rest)
    let ']' :: ']' :: rest := rest | none
    let key ← path.getLast?
    let fields ← draft.fields.openFurther path.dropLast key
    return some ⟨path, fields, ← endLine? rest⟩
  | '[' :: rest =>
    let (path, rest) ← key? (skipSpaces rest)
    let ']' :: rest := rest | none
    let key ← path.getLast?
    let fields ← draft.fields.openTable path.dropLast key
    return some ⟨path, fields, ← endLine? rest⟩
  | input =>
    let (path, rest) ← key? input
    let '=' :: rest := rest | none
    let (value, rest) ← value? (2 * rest.length + 2) maxDepth (skipSpaces rest)
    let key ← path.getLast?
    let fields ← draft.fields.defineAt draft.header path.dropLast key value
    return some ⟨draft.header, fields, ← endLine? rest⟩

/-- Reads all statements of a document. A statement that cannot be read yields the text from the end
of the one before it. -/
def statements : Nat → Draft → Except (List Char) Fields
  | 0, draft => .error draft.rest
  | fuel + 1, draft =>
    match statement? draft with
    | some (some next) => statements fuel next
    | some none => .ok draft.fields
    | none => .error draft.rest

/-- Reads a document. A byte order mark at its beginning is passed over. A document that cannot be
read yields the number of the line after the last statement that can. -/
def parse (text : String) : Except Nat Toml :=
  let input := match text.toList with
    | '\uFEFF' :: rest => rest
    | input => input
  match statements (input.length + 2) ⟨[], [], input⟩ with
  | .ok fields => .ok (.table (closeFields fields))
  | .error rest => .error (1 + (input.take (input.length - rest.length)).count '\n')

/-- Reads a document of a given shape. -/
def parseAs (decode : Toml → Option α) (text : String) : Except TomlError α :=
  match parse text with
  | .error line => .error (.malformed line)
  | .ok value => match decode value with
    | some a => .ok a
    | none => .error .misshapen

end TemplateInspector.Toml
