import TemplateInspector.Number.Printed

/-!
# Tokens of programs for records

A slash starts a pattern where no operand stands before it. A line end is a token, because it ends
statements.
-/

namespace TemplateInspector.Utility

/-- A token of a program for records. -/
inductive RecordToken
  | number (value : Float)
  | text (text : List Char)
  /-- A pattern between slashes. -/
  | pattern (text : List Char)
  /-- A name. -/
  | name (name : List Char)
  /-- A name with an opening parenthesis right behind it. -/
  | callee (name : List Char)
  /-- An operator or a mark. -/
  | mark (text : String)
  | lineEnd
  deriving Repr

namespace RecordToken

/-- Whether a token is a mark. -/
def isMark (token : RecordToken) (written : String) : Bool :=
  match token with
  | mark other => other == written
  | _ => false

/-- Whether an operand may end with a token, so that a slash behind it divides. -/
def endsOperand : RecordToken → Bool
  | number _ | text _ | pattern _ | name _ => true
  | callee _ | lineEnd => false
  | mark written => [")", "]", "$", "++", "--"].contains written

end RecordToken

/-- The marks, longer ones first. -/
def recordMarks : List String :=
  ["&&", "||", "++", "--", "+=", "-=", "*=", "/=", "%=", "^=", "==", "<=", ">=", "!=",
    "!~", ">>", "\x7b", "\x7d", "(", ")", "[", "]", ";", ",", "+", "-", "*", "/", "%", "^", "!",
    ">", "<", "|", "?", ":", "~", "$", "=", "&"]

/-- A token with the number of its line. -/
structure LocatedToken where
  /-- The token. -/
  token : RecordToken
  /-- The number of its line. -/
  line : Nat
  deriving Repr

/-- Why a text has no tokens. -/
inductive RecordTextError
  | openText (text : List Char)
  | openPattern (text : List Char)
  | strayCharacter (c : Char)
  deriving Repr

/-- Whether a character is a hexadecimal digit. -/
def isHexadecimal (c : Char) : Bool :=
  c.isDigit || ('a' ≤ c.toLower && c.toLower ≤ 'f')

/-- The number that hexadecimal digits write. -/
def hexadecimalValue (digits : List Char) : Nat :=
  digits.foldl (fun n c =>
    16 * n + (if c.isDigit then c.toNat - '0'.toNat else c.toLower.toNat - 'a'.toNat + 10)) 0

/-- The character that a text behind a backslash stands for; none if the backslash stays. -/
def recordEscape? : List Char → Option (List Char × List Char)
  | [] => none
  | '\n' :: rest => some ([], rest)
  | c :: rest =>
    match [('"', '"'), ('\\', '\\'), ('n', '\n'), ('t', '\t'), ('r', '\r'),
      ('a', '\x07'), ('b', '\x08'), ('f', '\x0c'), ('v', '\x0b')].lookup c with
    | some other => some ([other], rest)
    | none =>
      let isOctal (c : Char) : Bool := '0' ≤ c && c ≤ '7'
      let digits := ((c :: rest).take 3).takeWhile isOctal
      let hexadecimal := (rest.take 2).takeWhile isHexadecimal
      if c = 'x' && !hexadecimal.isEmpty then
        some ([Char.ofNat (hexadecimalValue hexadecimal)], rest.drop hexadecimal.length)
      else if digits.isEmpty then none
      else
        let code := digits.foldl (fun n c => 8 * n + (c.toNat - '0'.toNat)) 0
        some ([Char.ofNat (code % 256)], (c :: rest).drop digits.length)

/-- Reads a text up to its closing quote. `fuel` bounds the number of steps. -/
def readQuoted : Nat → List Char → List Char → Option (List Char × List Char)
  | 0, _, _ => none
  | _, _, [] | _, _, '\n' :: _ => none
  | _, taken, '"' :: rest => some (taken.reverse, rest)
  | fuel + 1, taken, '\\' :: rest =>
    match recordEscape? rest with
    | some (text, rest) => readQuoted fuel (text.reverse ++ taken) rest
    | none => readQuoted fuel ('\\' :: taken) rest
  | fuel + 1, taken, c :: rest => readQuoted fuel (c :: taken) rest

/-- Reads a pattern up to its closing slash, which does not stand in brackets. `fuel` bounds the
number of steps. -/
def readSlashed : Nat → Bool → List Char → List Char → Option (List Char × List Char)
  | 0, _, _, _ => none
  | _, _, _, [] | _, _, _, '\n' :: _ => none
  | fuel + 1, inBrackets, taken, c :: rest =>
    if c = '/' && !inBrackets then some (taken.reverse, rest)
    else if c = '\\' then
      match rest with
      | '/' :: rest => readSlashed fuel inBrackets ('/' :: taken) rest
      | d :: rest => readSlashed fuel inBrackets (d :: '\\' :: taken) rest
      | [] => none
    else if c = '[' && !inBrackets then
      let opening := match rest with
        | '^' :: ']' :: _ => 2
        | ']' :: _ | '^' :: _ => 1
        | _ => 0
      readSlashed (fuel - opening) true ((rest.take opening).reverse ++ c :: taken)
        (rest.drop opening)
    else readSlashed fuel (inBrackets && c ≠ ']') (c :: taken) rest

/-- Divides a program into tokens. `fuel` bounds the number of steps. -/
def recordTokens : Nat → Nat → List LocatedToken → List Char →
    Except (Nat × RecordTextError) (List LocatedToken)
  | 0, _, done, _ | _, _, done, [] => .ok done.reverse
  | fuel + 1, line, done, c :: rest =>
    let add (token : RecordToken) (rest : List Char) :
        Except (Nat × RecordTextError) (List LocatedToken) :=
      recordTokens fuel line (⟨token, line⟩ :: done) rest
    let isName (c : Char) : Bool := c.isAlphanum || c = '_'
    if c = '\n' then recordTokens fuel (line + 1) (⟨.lineEnd, line⟩ :: done) rest
    else if c = ' ' || c = '\t' || c = '\r' then recordTokens fuel line done rest
    else if c = '\\' && rest.head? = some '\n' then
      recordTokens fuel (line + 1) done (rest.drop 1)
    else if c = '\\' && rest.take 2 = ['\r', '\n'] then
      recordTokens fuel (line + 1) done (rest.drop 2)
    else if c = '#' then recordTokens fuel line done (rest.dropWhile (· ≠ '\n'))
    else if c = '"' then
      match readQuoted (rest.length + 1) [] rest with
      | some (text, behind) => add (.text text) behind
      | none => .error (line, .openText (rest.takeWhile (· ≠ '\n')))
    else if c.isDigit || (c = '.' && rest.head?.any Char.isDigit) then
      match leadingDecimal? (c :: rest) with
      | some n => add (.number (floatOfDecimal false n.digits n.exponent)) n.rest
      | none => .error (line, .strayCharacter c)
    else if c.isAlpha || c = '_' then
      let name := c :: rest.takeWhile isName
      let behind := rest.dropWhile isName
      if behind.head? = some '(' then add (.callee name) behind else add (.name name) behind
    else if c = '/' && !(done.head?.any fun token => token.token.endsOperand) then
      match readSlashed (rest.length + 1) false [] rest with
      | some (text, behind) => add (.pattern text) behind
      | none => .error (line, .openPattern (rest.takeWhile (· ≠ '\n')))
    else
      match recordMarks.find? fun mark => mark.toList.isPrefixOf (c :: rest) with
      | some mark => add (.mark mark) ((c :: rest).drop mark.length)
      | none => .error (line, .strayCharacter c)

end TemplateInspector.Utility
