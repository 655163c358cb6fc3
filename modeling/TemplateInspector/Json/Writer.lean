import TemplateInspector.Json.Value

/-!
# Writing JSON

Two layouts: without any blanks, and with one field or item per line, indented by two spaces per
level. Strings escape quotes, backslashes and control characters and nothing else.
-/

namespace TemplateInspector.Json

/-- The hexadecimal digit of a number below sixteen. -/
def hexDigit (n : Nat) : Char :=
  if n < 10 then Char.ofNat ('0'.toNat + n) else Char.ofNat ('a'.toNat + (n - 10))

/-- The written form of a character of a string. -/
def writeChar (c : Char) : List Char :=
  if c = '"' then ['\\', '"']
  else if c = '\\' then ['\\', '\\']
  else if c = '\x08' then ['\\', 'b']
  else if c = '\x0c' then ['\\', 'f']
  else if c = '\n' then ['\\', 'n']
  else if c = '\r' then ['\\', 'r']
  else if c = '\t' then ['\\', 't']
  else if c.toNat < 0x20 then
      ['\\', 'u', '0', '0', hexDigit (c.toNat / 16), hexDigit (c.toNat % 16)]
  else [c]

/-- The written form of a string. One without a text is written as a surrogate that stands alone. -/
def writeText : Option String → List Char
  | some text => '"' :: (text.toList.flatMap writeChar ++ ['"'])
  | none => "\"\\ud800\"".toList

/-- The decimal digits of a natural number. -/
def writeNat (n : Nat) : List Char :=
  Nat.toDigits 10 n

/-- The written form of a number. -/
def writeNumber : JsonNumber → List Char
  | .integer negative magnitude => (if negative then ['-'] else []) ++ writeNat magnitude
  | .decimal negative whole places exponent =>
    (if negative then ['-'] else []) ++ whole ++ (if places.isEmpty then [] else '.' :: places) ++
      'e' :: (if exponent < 0 then ['-'] else []) ++ writeNat exponent.natAbs

mutual

/-- The written form of a value, without blanks. -/
def write : Json → List Char
  | .null => "null".toList
  | .bool true => "true".toList
  | .bool false => "false".toList
  | .number n => writeNumber n
  | .string text => writeText text
  | .array [] => ['[', ']']
  | .array (item :: items) => '[' :: write item ++ writeItems items
  | .object [] => ['\x7b', '\x7d']
  | .object ((name, value) :: fields) =>
    '\x7b' :: writeText name ++ ':' :: write value ++ writeFields fields

/-- The further items of an array and its end. -/
def writeItems : List Json → List Char
  | [] => [']']
  | item :: items => ',' :: write item ++ writeItems items

/-- The further fields of an object and its end. -/
def writeFields : List (Option String × Json) → List Char
  | [] => ['\x7d']
  | (name, value) :: fields =>
    ',' :: writeText name ++ ':' :: write value ++ writeFields fields

end

/-- A line break before a line of a level. -/
def lineBreak (level : Nat) : List Char :=
  '\n' :: List.replicate (2 * level) ' '

mutual

/-- The written form of a value on a level, with one item or field per line. -/
def writePretty (level : Nat) : Json → List Char
  | .null => "null".toList
  | .bool true => "true".toList
  | .bool false => "false".toList
  | .number n => writeNumber n
  | .string text => writeText text
  | .array [] => ['[', ']']
  | .array (item :: items) =>
    '[' :: lineBreak (level + 1) ++ writePretty (level + 1) item ++ writePrettyItems level items
  | .object [] => ['\x7b', '\x7d']
  | .object ((name, value) :: fields) =>
    '\x7b' :: lineBreak (level + 1) ++ writeText name ++ ':' :: ' ' ::
      writePretty (level + 1) value ++ writePrettyFields level fields

/-- The further items of an array on a level, and its end. -/
def writePrettyItems (level : Nat) : List Json → List Char
  | [] => lineBreak level ++ [']']
  | item :: items =>
    ',' :: lineBreak (level + 1) ++ writePretty (level + 1) item ++ writePrettyItems level items

/-- The further fields of an object on a level, and its end. -/
def writePrettyFields (level : Nat) : List (Option String × Json) → List Char
  | [] => lineBreak level ++ ['\x7d']
  | (name, value) :: fields =>
    ',' :: lineBreak (level + 1) ++ writeText name ++ ':' :: ' ' ::
      writePretty (level + 1) value ++ writePrettyFields level fields

end

/-- The text of a value, without blanks. -/
def compact (value : Json) : String :=
  String.ofList (write value)

/-- The text of a value, with one item or field per line. -/
def pretty (value : Json) : String :=
  String.ofList (writePretty 0 value)

end TemplateInspector.Json
