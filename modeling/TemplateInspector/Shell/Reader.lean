import TemplateInspector.Shell.Command

/-!
# Reading shell scripts

A script is read one complete command at a time, so that what stands before a syntax error can still
be run. The bodies of here-documents are read at the end of the line in which they are announced.
-/

namespace TemplateInspector.Shell

/-- A here-document whose body has not been read. -/
structure PendingDocument where
  /-- Its number. -/
  number : Nat
  /-- The line that ends it. -/
  delimiter : List Char
  /-- Whether parameters and commands in it are replaced. -/
  expands : Bool
  /-- Whether tabs at the beginning of its lines are dropped. -/
  dropsTabs : Bool

/-- A line of a here-document as it counts. -/
def PendingDocument.line (document : PendingDocument) (line : List Char) : List Char :=
  if document.dropsTabs then line.dropWhile (· = '\t') else line

/-- Whether a line ends a here-document. -/
def PendingDocument.isEnd (document : PendingDocument) (line : List Char) : Bool :=
  document.line line = document.delimiter

/-- A script that has been read in part. -/
structure Source where
  /-- The text that has not been read. -/
  rest : List Char
  /-- The number of the current line. -/
  line : Nat := 1
  /-- The here-documents that were announced in the current line. -/
  pending : List PendingDocument := []
  /-- The number of here-documents that were announced. -/
  announced : Nat := 0
  /-- The here-documents that were read, with their numbers. -/
  documents : List (Nat × Word) := []
  /-- Whether the script is a file or the input. -/
  isFile : Bool := false

/-- A step of reading. -/
abbrev Reading := StateT Source (Except SyntaxError)

namespace Reading

/-- Stops with a syntax error. -/
def fail {α : Type} (reason : String) : Reading α := do
  throw ⟨(← get).line, reason⟩

/-- The text that has not been read. -/
def rest : Reading (List Char) := do
  return (← get).rest

/-- Goes on with a text. -/
def continueWith (rest : List Char) : Reading Unit :=
  modify fun source => { source with rest }

/-- Goes on with a text after a line end. -/
def continueOnNextLine (rest : List Char) : Reading Unit :=
  modify fun source => { source with rest, line := source.line + 1 }

/-- Goes on behind some text with line ends in it. -/
def continueBehind (text rest : List Char) : Reading Unit :=
  modify fun source => { source with rest, line := source.line + text.count '\n' }

end Reading

open Reading

/-- The words with a meaning of their own. -/
def reservedWords : List String :=
  ["!", "\x7b", "\x7d", "case", "do", "done", "elif", "else", "esac", "fi", "for", "if", "in",
    "then", "until", "while"]

/-- The reserved words that end a row of commands. -/
def closingWords : List String :=
  ["\x7d", "do", "done", "elif", "else", "esac", "fi", "then"]

/-- Whether a character ends a word. -/
def endsWord (c : Char) : Bool :=
  c = ' ' || c = '\t' || c = '\n' || c = ';' || c = '&' || c = '|' || c = '<' || c = '>' ||
    c = '(' || c = ')'

/-- Whether a character stands for itself in a word without quotes. -/
def isOrdinary (c : Char) : Bool :=
  !endsWord c && c ≠ '\'' && c ≠ '"' && c ≠ '\\' && c ≠ '$' && c ≠ '`'

/-- Whether a character may start a name. -/
def isNameStart (c : Char) : Bool :=
  c.isAlpha || c = '_'

/-- Whether a character may stand in a name. -/
def isNameChar (c : Char) : Bool :=
  c.isAlphanum || c = '_'

/-- Whether a character is the name of a special parameter. -/
def isSpecialParameter (c : Char) : Bool :=
  c.isDigit || c = '@' || c = '*' || c = '#' || c = '?' || c = '-' || c = '$' || c = '!'

/-- Drops blanks, comments and line ends that a backslash hides. -/
def skipBlanks : Nat → Reading Unit
  | 0 => pure ()
  | fuel + 1 => do
    match ← rest with
    | ' ' :: rest | '\t' :: rest =>
      continueWith rest
      skipBlanks fuel
    | '\\' :: '\n' :: rest =>
      continueOnNextLine rest
      skipBlanks fuel
    | '#' :: rest => continueWith (rest.dropWhile (· ≠ '\n'))
    | _ => pure ()

/-- Drops what stands before the next token. -/
def nextToken : Reading Unit := do
  skipBlanks ((← rest).length + 1)

/-- The run of characters at the beginning of a text up to the end of a word. -/
def wordText (text : List Char) : String :=
  String.ofList (text.takeWhile fun c => !endsWord c)

/-- The reserved word at the beginning of a text. -/
def reservedWord? (text : List Char) : Option String :=
  reservedWords.find? (· = wordText text)

/-- What the token at the beginning of a text is called. -/
def tokenName (text : List Char) : String :=
  match text with
  | [] => "end of file"
  | '\n' :: _ => "newline"
  | ';' :: ';' :: _ => "\";;\""
  | '&' :: '&' :: _ => "\"&&\""
  | '|' :: '|' :: _ => "\"||\""
  | '<' :: _ | '>' :: _ => "redirection"
  | c :: _ =>
    if endsWord c then "\"" ++ c.toString ++ "\""
    else match reservedWord? text with
      | some word => "\"" ++ word ++ "\""
      | none => "word"

/-- Stops at an unexpected token. -/
def unexpected {α : Type} (expected : Option String) : Reading α := do
  let reason := tokenName (← rest) ++ " unexpected"
  match expected with
  | none => fail reason
  | some token => fail (reason ++ " (expecting \"" ++ token ++ "\")")

/-- Whether no command starts here. -/
def atEnd : Reading Bool := do
  match ← rest with
  | [] | '\n' :: _ | ')' :: _ | ';' :: ';' :: _ => return true
  | text => return (reservedWord? text).any closingWords.contains

/-- Reads a reserved word. -/
def expectWord (word : String) : Reading Unit := do
  nextToken
  let text ← rest
  if wordText text = word then continueWith (text.drop word.length) else unexpected (some word)

/-- Whether a list of parts has a quoted one. -/
def hasQuotes (word : Word) : Bool :=
  word.any fun
    | .text quoted _ => quoted
    | _ => false

/-- The text of a word with its quotes removed. -/
def plainText (word : Word) : List Char :=
  word.flatMap fun
    | .text _ text => text
    | _ => []

/-- The text up to a closing quote of a command substitution, in which a backslash hides some
characters, and the text behind it. -/
def untilBackquote (quoted : Bool) : List Char → Option (List Char × List Char)
  | [] => none
  | '`' :: rest => some ([], rest)
  | '\\' :: c :: rest =>
    (untilBackquote quoted rest).map fun (text, rest) =>
      if c = '`' || c = '\\' || c = '$' || (quoted && c = '"') then (c :: text, rest)
      else ('\\' :: c :: text, rest)
  | c :: rest => (untilBackquote quoted rest).map fun (text, rest) => (c :: text, rest)

/-- The text of an arithmetic expression up to the two parentheses that end it, and the text behind
it. `depth` is the number of open parentheses in the expression. -/
def untilExpressionEnd (depth : Nat) : List Char → Option (List Char × List Char)
  | [] => none
  | '(' :: rest =>
    (untilExpressionEnd (depth + 1) rest).map fun (text, rest) => ('(' :: text, rest)
  | ')' :: rest =>
    if depth = 0 then
      match rest with
      | ')' :: rest => some ([], rest)
      | rest => (untilExpressionEnd 0 rest).map fun (text, rest) => (')' :: text, rest)
    else (untilExpressionEnd (depth - 1) rest).map fun (text, rest) => (')' :: text, rest)
  | c :: rest => (untilExpressionEnd depth rest).map fun (text, rest) => (c :: text, rest)

/-- The lines of a here-document up to its delimiter, and the text behind it. -/
def documentLines (document : PendingDocument) : Nat → List Char → List (List Char) × List Char
  | 0, text => ([], text)
  | fuel + 1, text =>
    if text.isEmpty then ([], [])
    else
      let line := text.takeWhile (· ≠ '\n')
      let rest := (text.dropWhile (· ≠ '\n')).drop 1
      if document.isEnd line then ([], rest)
      else
        let (lines, rest) := documentLines document fuel rest
        (document.line line :: lines, rest)

/-- The descriptor that digits before a redirection name, and the redirection. -/
def redirectionAt? (text : List Char) : Option (Option Nat × List Char) :=
  match text.dropWhile Char.isDigit with
  | c :: rest =>
    if c = '<' || c = '>' then
      let digits := String.ofList (text.takeWhile Char.isDigit)
      some (digits.toNat?, c :: rest)
    else none
  | [] => none

/-- The name at the beginning of a text if an equals sign follows it, and the text behind that. -/
def assignmentAt? (text : List Char) : Option (List Char × List Char) :=
  let name := text.takeWhile isNameChar
  match name, text.dropWhile isNameChar with
  | c :: _, '=' :: rest => if isNameStart c then some (name, rest) else none
  | _, _ => none

/-- The name at the beginning of a text if a pair of parentheses follows it, and the text behind
that. -/
def definitionAt? (text : List Char) : Option (List Char × List Char) :=
  let name := text.takeWhile isNameChar
  let isSpace (c : Char) : Bool := c = ' ' || c = '\t'
  match name, (text.dropWhile isNameChar).dropWhile isSpace with
  | c :: _, '(' :: rest =>
    match rest.dropWhile isSpace with
    | ')' :: rest => if isNameStart c then some (name, rest) else none
    | _ => none
  | _, _ => none

/-- Where the parts of a word end. -/
inductive WordEnd
  /-- Before a character that ends words. -/
  | token
  /-- Before a closing brace. -/
  | brace
  /-- Before a closing quote. -/
  | quote
  /-- Before a closing brace in quotes. -/
  | quotedBrace
  /-- At the end of the text. -/
  | document
  deriving DecidableEq, Repr

namespace WordEnd

/-- Whether the parts of a word are quoted. -/
def quoted : WordEnd → Bool
  | token | brace => false
  | quote | quotedBrace | document => true

/-- Whether a character ends the word. -/
def stops : WordEnd → Char → Bool
  | token, c => endsWord c
  | brace, c | quotedBrace, c => c = '\x7d'
  | quote, c => c = '"'
  | document, _ => false

/-- Whether a backslash hides a character that it stands before. -/
def hides (kind : WordEnd) (c : Char) : Bool :=
  match kind with
  | token | brace => true
  | quote | quotedBrace => c = '$' || c = '`' || c = '"' || c = '\\' || c = '\x7d'
  | document => c = '$' || c = '`' || c = '\\'

/-- Whether a character stands for itself. -/
def isPlain (kind : WordEnd) (c : Char) : Bool :=
  !kind.stops c && c ≠ '\\' && c ≠ '$' && c ≠ '`' && c ≠ '"' && (kind.quoted || c ≠ '\'')

end WordEnd

mutual

/-- Reads the parts of a word. -/
def parts (kind : WordEnd) : Nat → Reading Word
  | 0 => fail "too deeply nested"
  | fuel + 1 => do
    match ← rest with
    | [] => return []
    | c :: rest =>
      if kind.stops c then return []
      else if c = '\'' && !kind.quoted then
        let text := rest.takeWhile (· ≠ '\'')
        match rest.dropWhile (· ≠ '\'') with
        | [] =>
          continueBehind text []
          fail "Unterminated quoted string"
        | _ :: rest =>
          continueBehind text rest
          return .text true text :: (← parts kind fuel)
      else if c = '"' && kind ≠ .document then
        continueWith rest
        if kind = .quotedBrace then parts kind fuel
        else
          let inner ← parts .quote fuel
          match ← Reading.rest with
          | '"' :: rest =>
            continueWith rest
            return (if inner.isEmpty then [.text true []] else inner) ++ (← parts kind fuel)
          | _ => fail "Unterminated quoted string"
      else if c = '\\' then
        match rest with
        | '\n' :: rest =>
          continueOnNextLine rest
          parts kind fuel
        | d :: rest =>
          continueWith rest
          let text := if kind.hides d then [d] else ['\\', d]
          return .text true text :: (← parts kind fuel)
        | [] =>
          continueWith []
          return [.text kind.quoted ['\\']]
      else if c = '$' then
        continueWith rest
        let part ← dollar kind.quoted fuel
        return part :: (← parts kind fuel)
      else if c = '`' then
        match untilBackquote kind.quoted rest with
        | none =>
          continueBehind rest []
          fail "EOF in backquote substitution"
        | some (text, behind) =>
          continueWith text
          let commands ← list fuel
          if !(← Reading.rest).isEmpty then unexpected none
          continueWith behind
          return .output kind.quoted commands :: (← parts kind fuel)
      else
        let text := c :: rest.takeWhile kind.isPlain
        continueBehind text (rest.dropWhile kind.isPlain)
        return .text kind.quoted text :: (← parts kind fuel)

/-- Reads what follows a dollar sign. -/
def dollar (quoted : Bool) : Nat → Reading WordPart
  | 0 => fail "too deeply nested"
  | fuel + 1 => do
    match ← rest with
    | '(' :: '(' :: rest =>
      match untilExpressionEnd 0 rest with
      | none => fail "Missing '))'"
      | some (text, behind) =>
        continueWith text
        let expression ← parts .document fuel
        continueWith behind
        return .arithmetic quoted expression
    | '(' :: rest =>
      continueWith rest
      let commands ← list fuel
      match ← Reading.rest with
      | ')' :: rest =>
        continueWith rest
        return .output quoted commands
      | _ => unexpected (some ")")
    | '\x7b' :: rest =>
      continueWith rest
      braces quoted fuel
    | c :: rest =>
      if isNameStart c then
        continueWith (rest.dropWhile isNameChar)
        return .parameter quoted (c :: rest.takeWhile isNameChar)
      else if isSpecialParameter c then
        continueWith rest
        return .parameter quoted [c]
      else return .text true ['$']
    | [] => return .text true ['$']

/-- Reads a parameter from behind its opening brace. -/
def braces (quoted : Bool) : Nat → Reading WordPart
  | 0 => fail "too deeply nested"
  | fuel + 1 => do
    let text ← rest
    match text with
    | '#' :: c :: rest =>
      if isNameStart c || c.isDigit || c = '@' || c = '*' then
        let name := (c :: rest).takeWhile isNameChar
        let name := if name.isEmpty then [c] else name
        match (c :: rest).drop name.length with
        | '\x7d' :: rest =>
          continueWith rest
          return .length quoted name
        | rest => unknownUse quoted fuel rest
      else parameterUse quoted fuel
    | _ => parameterUse quoted fuel

/-- Reads the name of a parameter in braces and what is done with it. -/
def parameterUse (quoted : Bool) : Nat → Reading WordPart
  | 0 => fail "too deeply nested"
  | fuel + 1 => do
    let text ← rest
    let name := match text with
      | c :: _ =>
        if isNameStart c then text.takeWhile isNameChar
        else if c.isDigit then text.takeWhile Char.isDigit
        else if isSpecialParameter c then [c]
        else []
      | [] => []
    if name.isEmpty then return ← unknownUse quoted fuel text
    let substitute (use : Substitute) (emptyIsMissing : Bool) (rest : List Char) :
        Reading WordPart := do
      continueWith rest
      return .substitute quoted name use emptyIsMissing (← bracedWord quoted fuel)
    let trim (atEnd longest : Bool) (rest : List Char) : Reading WordPart := do
      continueWith rest
      return .trim quoted name atEnd longest (← bracedWord false fuel)
    match text.drop name.length with
    | '\x7d' :: rest =>
      continueWith rest
      return .parameter quoted name
    | ':' :: '-' :: rest => substitute .default true rest
    | ':' :: '=' :: rest => substitute .assign true rest
    | ':' :: '?' :: rest => substitute .demand true rest
    | ':' :: '+' :: rest => substitute .replace true rest
    | '-' :: rest => substitute .default false rest
    | '=' :: rest => substitute .assign false rest
    | '?' :: rest => substitute .demand false rest
    | '+' :: rest => substitute .replace false rest
    | '%' :: '%' :: rest => trim true true rest
    | '%' :: rest => trim true false rest
    | '#' :: '#' :: rest => trim false true rest
    | '#' :: rest => trim false false rest
    | ':' :: _ :: rest => unknownUse quoted fuel rest
    | rest => unknownUse quoted fuel rest

/-- Reads the use of a parameter that is not known up to a closing brace. -/
def unknownUse (quoted : Bool) : Nat → List Char → Reading WordPart
  | 0, _ => fail "too deeply nested"
  | fuel + 1, rest => do
    continueWith rest
    discard <| bracedWord quoted fuel
    return .unknownUse

/-- Reads a word up to a closing brace, and the brace. -/
def bracedWord (quoted : Bool) : Nat → Reading Word
  | 0 => fail "too deeply nested"
  | fuel + 1 => do
    let word ← parts (if quoted then .quotedBrace else .brace) fuel
    match ← rest with
    | '\x7d' :: rest =>
      continueWith rest
      return word
    | _ => fail (if quoted then "Unterminated quoted string" else "Missing '\x7d'")

/-- Reads the bodies of the here-documents that were announced in the line that has ended. -/
def documents : Nat → Reading Unit
  | 0 => fail "too deeply nested"
  | fuel + 1 => do
    match (← get).pending with
    | [] => pure ()
    | document :: pending =>
      modify fun source => { source with pending }
      let text ← rest
      let (lines, behind) := documentLines document (text.length + 1) text
      let isBroken := behind.isEmpty && text.getLast? ≠ some '\n' &&
        !document.isEnd (text.reverse.takeWhile (· ≠ '\n')).reverse
      let body := ['\n'].intercalate lines ++ (if isBroken || lines.isEmpty then [] else ['\n'])
      let word ← if document.expands then do
          continueWith body
          parts .document fuel
        else pure [.text true body]
      continueBehind (text.take (text.length - behind.length)) behind
      modify fun source =>
        { source with documents := source.documents ++ [(document.number, word)] }
      documents fuel

/-- Reads a line end and the here-documents behind it, if there is one here. -/
def lineEnd? : Nat → Reading Bool
  | 0 => fail "too deeply nested"
  | fuel + 1 => do
    nextToken
    match ← rest with
    | '\n' :: rest =>
      continueOnNextLine rest
      documents fuel
      return true
    | _ => return false

/-- Reads line ends. -/
def lineEnds : Nat → Reading Unit
  | 0 => fail "too deeply nested"
  | fuel + 1 => do
    if ← lineEnd? fuel then lineEnds fuel

/-- Reads a redirection from behind the digits before it. -/
def redirection (descriptor : Option Nat) : Nat → Reading Redirection
  | 0 => fail "too deeply nested"
  | fuel + 1 => do
    let target (rest : List Char) : Reading Word := do
      continueWith rest
      nextToken
      let word ← parts .token fuel
      if word.isEmpty then unexpected none else return word
    let document (dropsTabs : Bool) (rest : List Char) : Reading Redirection := do
      let word ← target rest
      let number := (← get).announced
      modify fun source => { source with
        announced := number + 1
        pending := source.pending ++ [⟨number, plainText word, !hasQuotes word, dropsTabs⟩] }
      return .document (descriptor.getD 0) number
    match ← rest with
    | '<' :: '<' :: '-' :: rest => document true rest
    | '<' :: '<' :: rest => document false rest
    | '<' :: '&' :: rest => return .copy (descriptor.getD 0) (← target rest)
    | '<' :: '>' :: rest => return .file (descriptor.getD 0) .open (← target rest)
    | '<' :: rest => return .file (descriptor.getD 0) .read (← target rest)
    | '>' :: '>' :: rest => return .file (descriptor.getD 1) .append (← target rest)
    | '>' :: '&' :: rest => return .copy (descriptor.getD 1) (← target rest)
    | '>' :: '|' :: rest => return .file (descriptor.getD 1) .overwrite (← target rest)
    | rest => return .file (descriptor.getD 1) .write (← target (rest.drop 1))

/-- Reads the redirections that follow a command. -/
def redirections : Nat → Reading (List Redirection)
  | 0 => fail "too deeply nested"
  | fuel + 1 => do
    nextToken
    match redirectionAt? (← rest) with
    | some (descriptor, rest) =>
      continueWith rest
      let first ← redirection descriptor fuel
      return first :: (← redirections fuel)
    | none => return []

/-- Reads the rest of a simple command. -/
def simple (line : Nat) (assignments : List (List Char × Word)) (words : List Word)
    (redirections : List Redirection) : Nat → Reading Command
  | 0 => fail "too deeply nested"
  | fuel + 1 => do
    nextToken
    let text ← rest
    match redirectionAt? text with
    | some (descriptor, rest) =>
      continueWith rest
      let next ← redirection descriptor fuel
      simple line assignments words (redirections ++ [next]) fuel
    | none =>
      match if words.isEmpty then assignmentAt? text else none with
      | some (name, rest) =>
        continueWith rest
        let value ← parts .token fuel
        simple line (assignments ++ [(name, value)]) words redirections fuel
      | none =>
        let word ← parts .token fuel
        if word.isEmpty then
          if assignments.isEmpty && words.isEmpty && redirections.isEmpty then unexpected none
          else if words.length = 1 && assignments.isEmpty && redirections.isEmpty
              && text.head? = some '(' then
            continueWith (text.drop 1)
            nextToken
            if (← rest).head? = some ')' then fail "Bad function name" else unexpected (some ")")
          else return .simple line assignments words redirections
        else simple line assignments (words ++ [word]) redirections fuel

/-- Reads words up to the end of a line. -/
def words : Nat → Reading (List Word)
  | 0 => fail "too deeply nested"
  | fuel + 1 => do
    nextToken
    let word ← parts .token fuel
    if word.isEmpty then return [] else return word :: (← words fuel)

/-- Reads the patterns of a branch up to the parenthesis behind them. -/
def patterns : Nat → Reading (List Word)
  | 0 => fail "too deeply nested"
  | fuel + 1 => do
    nextToken
    let pattern ← parts .token fuel
    if pattern.isEmpty then unexpected (if (← rest).isEmpty then some ")" else none)
    nextToken
    match ← rest with
    | '|' :: rest =>
      continueWith rest
      return pattern :: (← patterns fuel)
    | ')' :: rest =>
      continueWith rest
      return [pattern]
    | _ => unexpected (some ")")

/-- Reads the branches of a selection up to its end. -/
def branches : Nat → Reading (List (List Word × List Command))
  | 0 => fail "too deeply nested"
  | fuel + 1 => do
    lineEnds fuel
    let text ← rest
    if wordText text = "esac" then
      continueWith (text.drop 4)
      return []
    else
      match text with
      | '(' :: rest => continueWith rest
      | _ => pure ()
      let patterns ← patterns fuel
      let body ← list fuel
      match ← rest with
      | ';' :: ';' :: rest =>
        continueWith rest
        return (patterns, body) :: (← branches fuel)
      | text =>
        if wordText text ≠ "esac" then unexpected (some ";;")
        continueWith (text.drop 4)
        return [(patterns, body)]

/-- Reads commands of which there must be one, unless the script ends. -/
def body : Nat → Reading (List Command)
  | 0 => fail "too deeply nested"
  | fuel + 1 => do
    let commands ← list fuel
    if commands.isEmpty && !(← rest).isEmpty then unexpected none else return commands

/-- Reads the rest of a choice from behind the word that opens its condition. -/
def conditional : Nat → Reading Command
  | 0 => fail "too deeply nested"
  | fuel + 1 => do
    let condition ← body fuel
    expectWord "then"
    let then_ ← body fuel
    nextToken
    let text ← rest
    match wordText text with
    | "elif" =>
      continueWith (text.drop 4)
      return .conditional condition then_ [← conditional fuel]
    | "else" =>
      continueWith (text.drop 4)
      let otherwise ← body fuel
      expectWord "fi"
      return .conditional condition then_ otherwise
    | _ =>
      expectWord "fi"
      return .conditional condition then_ []

/-- Reads the body of a loop. -/
def loopBody : Nat → Reading (List Command)
  | 0 => fail "too deeply nested"
  | fuel + 1 => do
    expectWord "do"
    let commands ← body fuel
    expectWord "done"
    return commands

/-- Reads a command that starts with a reserved word. -/
def compound (word : String) : Nat → Reading Command
  | 0 => fail "too deeply nested"
  | fuel + 1 => do
    match word with
    | "\x7b" =>
      let commands ← body fuel
      expectWord "\x7d"
      return .group commands
    | "if" => conditional fuel
    | "while" =>
      let condition ← body fuel
      return .repetition true condition (← loopBody fuel)
    | "until" =>
      let condition ← body fuel
      return .repetition false condition (← loopBody fuel)
    | "for" =>
      nextToken
      let text ← rest
      let name := text.takeWhile isNameChar
      if !(name.head?.any isNameStart) then fail "Bad for loop variable"
      continueWith (text.drop name.length)
      lineEnds fuel
      let text ← rest
      if wordText text = "in" then
        continueWith (text.drop 2)
        let values ← words fuel
        nextToken
        match ← rest with
        | ';' :: rest => continueWith rest
        | '\n' :: _ => pure ()
        | _ => unexpected none
        lineEnds fuel
        return .each name (some values) (← loopBody fuel)
      else
        match text with
        | ';' :: rest => continueWith rest
        | _ => pure ()
        lineEnds fuel
        return .each name none (← loopBody fuel)
    | "case" =>
      nextToken
      let value ← parts .token fuel
      if value.isEmpty then fail (tokenName (← rest) ++ " unexpected (expecting word)")
      lineEnds fuel
      expectWord "in"
      return .selection value (← branches fuel)
    | _ => unexpected none

/-- Reads a command. -/
def command : Nat → Reading Command
  | 0 => fail "too deeply nested"
  | fuel + 1 => do
    nextToken
    let text ← rest
    let withRedirections (command : Command) : Reading Command := do
      let redirections ← redirections fuel
      return if redirections.isEmpty then command else .redirected command redirections
    match text with
    | '(' :: rest =>
      continueWith rest
      let commands ← body fuel
      match ← Reading.rest with
      | ')' :: rest =>
        continueWith rest
        withRedirections (.subshell commands)
      | _ => unexpected (some ")")
    | _ =>
      match reservedWord? text with
      | some word =>
        if closingWords.contains word || word = "in" || word = "!" then unexpected none
        continueWith (text.drop word.length)
        withRedirections (← compound word fuel)
      | none =>
        match definitionAt? text with
        | some (name, rest) =>
          continueWith rest
          lineEnds fuel
          return .definition name (← command fuel)
        | none => simple (← get).line [] [] [] fuel

/-- Reads the commands of a pipeline. -/
def pipedCommands : Nat → Reading (List Command)
  | 0 => fail "too deeply nested"
  | fuel + 1 => do
    let first ← command fuel
    nextToken
    match ← rest with
    | '|' :: '|' :: _ => return [first]
    | '|' :: rest =>
      continueWith rest
      lineEnds fuel
      return first :: (← pipedCommands fuel)
    | _ => return [first]

/-- Reads a pipeline. -/
def pipeline : Nat → Reading Command
  | 0 => fail "too deeply nested"
  | fuel + 1 => do
    nextToken
    let text ← rest
    let negated := wordText text = "!"
    if negated then continueWith (text.drop 1)
    match ← pipedCommands fuel with
    | [command] => return if negated then .pipeline true [command] else command
    | commands => return .pipeline negated commands

/-- Reads what follows the first pipelines of a chain. -/
def chain (first : Command) : Nat → Reading Command
  | 0 => fail "too deeply nested"
  | fuel + 1 => do
    nextToken
    match ← rest with
    | '&' :: '&' :: rest =>
      continueWith rest
      lineEnds fuel
      chain (.both first (← pipeline fuel)) fuel
    | '|' :: '|' :: rest =>
      continueWith rest
      lineEnds fuel
      chain (.either first (← pipeline fuel)) fuel
    | _ => return first

/-- Reads the commands of a line. -/
def lineCommands : Nat → Reading (List Command)
  | 0 => fail "too deeply nested"
  | fuel + 1 => do
    let first ← chain (← pipeline fuel) fuel
    match ← rest with
    | ';' :: ';' :: _ => return [first]
    | c :: rest =>
      if c ≠ ';' && c ≠ '&' then return [first]
      continueWith rest
      nextToken
      let first := if c = '&' then .beside first else first
      if ← atEnd then return [first] else return first :: (← lineCommands fuel)
    | [] => return [first]

/-- Reads commands up to what cannot start one. -/
def list : Nat → Reading (List Command)
  | 0 => fail "too deeply nested"
  | fuel + 1 => do
    lineEnds fuel
    if ← atEnd then return []
    else
      let first ← lineCommands fuel
      if ← lineEnd? fuel then return first ++ (← list fuel) else return first

end

/-- Reads the commands of the next line with a command; none at the end of the script. -/
def nextCommands (source : Source) : Except SyntaxError (Option (List Command) × Source) :=
  let fuel := 16 * source.rest.length + 64
  let reading : Reading (Option (List Command)) := do
    lineEnds fuel
    if (← rest).isEmpty then return none
    else
      let commands ← lineCommands fuel
      if ← lineEnd? fuel then return some commands
      else if (← rest).isEmpty then return some commands
      else unexpected none
  reading.run source

end TemplateInspector.Shell
