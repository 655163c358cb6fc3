import TemplateInspector.Utility.Records.Program
import TemplateInspector.Utility.Records.Token

/-!
# Reading programs for records

Expressions are read by the ranks of their operators. Where something is printed, the mark for
greater leads to a file unless it stands in parentheses; in the head of a loop over an array the
word `in` is no operator.
-/

namespace TemplateInspector.Utility

/-- Why tokens are no program. -/
inductive RecordSyntaxError
  /-- Something does not belong to where it stands. -/
  | unexpected (line : Nat) (written : List Char)
  | openBlock (line : Nat)
  /-- A pattern is no regular expression. -/
  | badPattern (line : Nat) (text : List Char)
  | undefined (line : Nat) (name : List Char)
  | text (line : Nat) (error : RecordTextError)

/-- What is told of something that tokens are not made of. -/
def RecordTextError.message : RecordTextError → List Char
  | .openText text => "runaway string constant \"".toList ++ text.take 10 ++ " ...".toList
  | .openPattern text => "runaway regular expression /".toList ++ text.take 10 ++ " ...".toList
  | .strayCharacter c => "unexpected character '".toList ++ c :: "'".toList

/-- The text that reports why tokens are no program. -/
def RecordSyntaxError.message (error : RecordSyntaxError) : List Char :=
  let at_ (line : Nat) (reason : List Char) : List Char :=
    "line ".toList ++ (toString line).toList ++ ": ".toList ++ reason
  match error with
  | .unexpected line written => at_ line ("syntax error at or near ".toList ++ written)
  | .openBlock line => at_ line "missing \x7d near end of file".toList
  | .badPattern line written => at_ line ("regular expression compile failed\n".toList ++ written)
  | .undefined line name => at_ line ("function ".toList ++ name ++ " never defined".toList)
  | .text line error => at_ line error.message

/-- How a token is named. -/
def RecordToken.written : RecordToken → List Char
  | number value => ({} : NumberStyle).renderFloat 'g' value
  | text written | pattern written | name written | callee written => written
  | mark written => written.toList
  | lineEnd => "end of line".toList

/-- What reads a part of a program. -/
abbrev RecordM := StateT (List LocatedToken) (Except RecordSyntaxError)

/-- The words that are no names of variables. -/
def recordKeywords : List String :=
  ["BEGIN", "END", "if", "else", "while", "do", "for", "in", "break", "continue", "next",
   "nextfile",
    "exit", "return", "delete", "print", "printf", "getline", "function", "func"]

/-- The functions that every program has. -/
def recordFunctions : List (String × RecordFunction) :=
  [("length", .length), ("substr", .substr), ("index", .index), ("split", .split), ("sub", .sub),
    ("gsub", .gsub), ("match", .find), ("sprintf", .sprintf), ("sin", .sin), ("cos", .cos),
    ("atan2", .atan2), ("exp", .exp), ("log", .log), ("sqrt", .sqrt), ("int", .int),
    ("rand", .rand), ("srand", .srand), ("tolower", .tolower), ("toupper", .toupper),
    ("system", .system), ("close", .close), ("fflush", .fflush)]

/-- The operators that assign, with the calculations that they do before. -/
def recordAssignments : List (String × Option RecordOperator) :=
  [("=", none), ("+=", some .add), ("-=", some .subtract), ("*=", some .multiply),
    ("/=", some .divide), ("%=", some .remainder), ("^=", some .power)]

/-- The operators that compare. -/
def recordComparisons : List (String × RecordComparison) :=
  [("<", .less), ("<=", .lessEqual), ("==", .equal), ("!=", .notEqual), (">", .greater),
    (">=", .greaterEqual)]

/-- Whether a value can be assigned to an expression. -/
def RecordExpr.isTarget : RecordExpr → Bool
  | .named _ | .field _ | .element _ _ => true
  | _ => false

/-- A regular expression with characters in the place of letters behind a backslash. -/
def recordPatternText : Nat → List Char → List Char
  | 0, text => text
  | _, [] => []
  | fuel + 1, '\\' :: rest =>
    match rest with
    | [] => ['\\', '\\']
    | c :: behind =>
      if c = '"' || c = '/' then c :: recordPatternText fuel behind
      else if c = '\\' || !(c.isAlphanum || c = '\n') then
        '\\' :: c :: recordPatternText fuel behind
      else match recordEscape? rest with
        | some (text, behind) => text ++ recordPatternText fuel behind
        | none => c :: recordPatternText fuel behind
  | fuel + 1, c :: rest => c :: recordPatternText fuel rest

/-- The regular expression that a text writes. -/
def recordPattern (text : List Char) : Except RegexError Regex :=
  let dialect : RegexDialect := { extended := true, bracketEscapes := true }
  (Regex.read dialect (recordPatternText (text.length + 1) text)).map Prod.fst

namespace RecordM

/-- The next token, which is not read. -/
def peek : RecordM (Option RecordToken) :=
  return (← get).head?.map LocatedToken.token

/-- Skips a token. -/
def skip : RecordM Unit :=
  modify (·.drop 1)

/-- Ends with a complaint about the next token. -/
def refuse : RecordM α := do
  match (← get) with
  | [] => throw (.unexpected 1 "end of file".toList)
  | token :: _ => throw (.unexpected token.line token.token.written)

/-- Whether the next token is a mark. -/
def isMark (mark : String) : RecordM Bool :=
  return (← peek).any fun token => token.isMark mark

/-- Whether the next token is a word. -/
def isWord (word : String) : RecordM Bool :=
  return (← peek).any fun token =>
    match token with
    | .name name | .callee name => String.ofList name == word
    | _ => false

/-- Skips a mark if it is the next token. -/
def accept (mark : String) : RecordM Bool := do
  if ← isMark mark then
    skip
    return true
  else return false

/-- Skips a mark, which has to be the next token. -/
def expect (mark : String) : RecordM Unit := do
  if !(← accept mark) then
    if mark = "\x7d" && (← get).isEmpty then throw (.openBlock 2) else refuse

/-- Skips line ends. -/
def skipLines : RecordM Unit :=
  modify fun tokens => tokens.dropWhile fun token => token.token matches .lineEnd

/-- Skips line ends and marks that end statements. -/
def skipEnds : RecordM Unit :=
  modify fun tokens => tokens.dropWhile fun token =>
    token.token.isMark ";" || token.token matches .lineEnd

/-- Reads a name. -/
def variable_ : RecordM (List Char) := do
  match ← peek with
  | some (.name name) =>
    skip
    return name
  | _ => refuse

/-- Where an expression stands. -/
structure Place where
  /-- Whether the mark for greater leads to a file. -/
  isPrinted : Bool := false
  /-- Whether the word `in` is no operator. -/
  isLoopHead : Bool := false

/-- Whether an expression may begin with the next token, other than by a sign. -/
def startsOperand : RecordM Bool := do
  match ← peek with
  | some (.number _) | some (.text _) | some (.pattern _) => return true
  | some (.name name) | some (.callee name) =>
    return !recordKeywords.contains (String.ofList name)
  | some (.mark mark) => return ["$", "!", "(", "++", "--"].contains mark
  | _ => return false

/-- Reads what follows on an expression as long as there is something. `fuel` bounds the number of
steps. -/
def follow : Nat → RecordExpr → (RecordExpr → RecordM (Option RecordExpr)) → RecordM RecordExpr
  | 0, first, _ => return first
  | fuel + 1, first, step => do
    match ← step first with
    | some next => follow fuel next step
    | none => return first

mutual

/-- Reads an expression. -/
def expression : Nat → Place → RecordM RecordExpr
  | 0, _ => refuse
  | fuel + 1, place => do
    let condition ← alternatives fuel place
    if ← accept "?" then
      skipLines
      let first ← expression fuel place
      skipLines
      expect ":"
      skipLines
      return .choice condition first (← expression fuel place)
    else return condition

/-- Reads conditions of which one has to hold. -/
def alternatives : Nat → Place → RecordM RecordExpr
  | 0, _ => refuse
  | fuel + 1, place => do
    let first ← conjunction fuel place
    follow fuel first fun first => do
      if ← accept "||" then
        skipLines
        return some (.either first (← conjunction fuel place))
      else return none

/-- Reads conditions that all have to hold. -/
def conjunction : Nat → Place → RecordM RecordExpr
  | 0, _ => refuse
  | fuel + 1, place => do
    let first ← membership fuel place
    follow fuel first fun first => do
      if ← accept "&&" then
        skipLines
        return some (.both first (← membership fuel place))
      else return none

/-- Reads questions for indices of arrays. -/
def membership : Nat → Place → RecordM RecordExpr
  | 0, _ => refuse
  | fuel + 1, place => do
    let first ← matching fuel place
    follow fuel first fun first => do
      if !place.isLoopHead && (← isWord "in") then
        skip
        return some (.isIn [first] (← variable_))
      else return none

/-- Reads questions for patterns. -/
def matching : Nat → Place → RecordM RecordExpr
  | 0, _ => refuse
  | fuel + 1, place => do
    let first ← comparison fuel place
    follow fuel first fun first => do
      if ← accept "~" then return some (.matching false first (← comparison fuel place))
      else if ← accept "!~" then return some (.matching true first (← comparison fuel place))
      else return none

/-- Reads a comparison. -/
def comparison : Nat → Place → RecordM RecordExpr
  | 0, _ => refuse
  | fuel + 1, place => do
    let first ← piped fuel
    match ← peek with
    | some (.mark mark) =>
      if mark = ">" && place.isPrinted then return first
      else match recordComparisons.lookup mark with
        | some comparison =>
          skip
          return .comparison comparison first (← piped fuel)
        | none => return first
    | _ => return first

/-- Reads a text, or a command from which records are read. -/
def piped : Nat → RecordM RecordExpr
  | 0 => refuse
  | fuel + 1 => do
    let first ← joined fuel
    follow fuel first fun first => do
      let follows : Bool := match (← get) with
        | ⟨.mark "|", _⟩ :: ⟨.name name, _⟩ :: _ => name = "getline".toList
        | _ => false
      if follows then
        skip
        skip
        return some (.readRecord (.command first) (← optionalTarget fuel))
      else return none

/-- Reads texts that are joined. -/
def joined : Nat → RecordM RecordExpr
  | 0 => refuse
  | fuel + 1 => do
    let first ← sum fuel
    follow fuel first fun first => do
      if ← startsOperand then return some (.joined first (← sum fuel)) else return none

/-- Reads a sum. -/
def sum : Nat → RecordM RecordExpr
  | 0 => refuse
  | fuel + 1 => do
    let first ← product fuel
    follow fuel first fun first => do
      if ← accept "+" then return some (.calculation .add first (← product fuel))
      else if ← accept "-" then return some (.calculation .subtract first (← product fuel))
      else return none

/-- Reads a product. -/
def product : Nat → RecordM RecordExpr
  | 0 => refuse
  | fuel + 1 => do
    let first ← signed fuel
    follow fuel first fun first => do
      if ← accept "*" then return some (.calculation .multiply first (← signed fuel))
      else if ← accept "/" then return some (.calculation .divide first (← signed fuel))
      else if ← accept "%" then return some (.calculation .remainder first (← signed fuel))
      else return none

/-- Reads an operand with its signs. -/
def signed : Nat → RecordM RecordExpr
  | 0 => refuse
  | fuel + 1 => do
    if ← accept "!" then return .not (← signed fuel)
    else if ← accept "-" then return .negative (← signed fuel)
    else if ← accept "+" then return .positive (← signed fuel)
    else powers fuel

/-- Reads a power. -/
def powers : Nat → RecordM RecordExpr
  | 0 => refuse
  | fuel + 1 => do
    let base ← increased fuel
    if ← isMark "^" then
      skip
      let exponent ←
        if ← accept "-" then pure (RecordExpr.negative (← powers fuel))
        else if ← accept "+" then powers fuel
        else if ← accept "!" then pure (RecordExpr.not (← powers fuel))
        else powers fuel
      return .calculation .power base exponent
    else return base

/-- Reads an operand that may be increased or decreased, or to which a value is assigned. -/
def increased : Nat → RecordM RecordExpr
  | 0 => refuse
  | fuel + 1 => do
    if ← accept "++" then return .increase (← operand fuel) 1 false
    else if ← accept "--" then return .increase (← operand fuel) (-1) false
    else
      let e ← operand fuel
      if !e.isTarget then return e
      else if ← accept "++" then return .increase e 1 true
      else if ← accept "--" then return .increase e (-1) true
      else match ← peek with
        | some (.mark mark) => match recordAssignments.lookup mark with
          | some operator =>
            skip
            skipLines
            return .assign operator e (← expression fuel {})
          | none => return e
        | _ => return e

/-- Reads what a record is read into, if it is there. -/
def optionalTarget : Nat → RecordM (Option RecordExpr)
  | 0 => return none
  | fuel + 1 => do
    match ← peek with
    | some (.name name) =>
      if recordKeywords.contains (String.ofList name) then return none
      else return some (← operand fuel)
    | some (.mark "$") => return some (← operand fuel)
    | _ => return none

/-- Reads expressions between commas up to a mark, which is skipped. -/
def list : Nat → String → RecordM (List RecordExpr)
  | 0, _ => refuse
  | fuel + 1, stop => do
    skipLines
    if ← accept stop then return []
    else
      let first ← expression fuel {}
      skipLines
      if ← accept "," then return first :: (← list fuel stop)
      else
        expect stop
        return [first]

/-- Reads an operand. -/
def operand : Nat → RecordM RecordExpr
  | 0 => refuse
  | fuel + 1 => do
    match ← peek with
    | some (.number value) =>
      skip
      return .number value
    | some (.text text) =>
      skip
      return .text text
    | some (.pattern text) =>
      let line := ((← get).head?.map LocatedToken.line).getD 1
      skip
      match recordPattern text with
      | .ok r => return .regex r
      | .error _ => throw (.badPattern line text)
    | some (.mark "$") =>
      skip
      if ← accept "-" then return .field (.negative (← operand fuel))
      else if ← accept "++" then return .field (.increase (← operand fuel) 1 false)
      else if ← accept "--" then return .field (.increase (← operand fuel) (-1) false)
      else return .field (← operand fuel)
    | some (.mark "(") =>
      skip
      match ← list fuel ")" with
      | [e] => return .group e
      | [] => refuse
      | es =>
        if ← isWord "in" then
          skip
          return .isIn es (← variable_)
        else refuse
    | some (.mark "-") =>
      skip
      return .negative (← operand fuel)
    | some (.callee name) =>
      match recordFunctions.lookup (String.ofList name) with
      | some function =>
        skip
        skip
        return .builtin function (← list fuel ")")
      | none =>
        if name = "getline".toList then
          skip
          return .readRecord .input (← optionalTarget fuel)
        else if recordKeywords.contains (String.ofList name) then refuse
        else
          skip
          skip
          return .call name (← list fuel ")")
    | some (.name name) =>
      match recordFunctions.lookup (String.ofList name) with
      | some function =>
        skip
        if ← accept "(" then return .builtin function (← list fuel ")")
        else if function = .length then return .builtin .length []
        else refuse
      | none =>
        if name = "getline".toList then
          skip
          let target ← optionalTarget fuel
          if ← accept "<" then return .readRecord (.file (← operand fuel)) target
          else return .readRecord .input target
        else if recordKeywords.contains (String.ofList name) then refuse
        else
          skip
          if ← accept "[" then return .element name (← list fuel "]")
          else return .named name
    | _ => refuse

end

/-- The number of tokens up to the parenthesis that closes the first one, that one included. -/
def closingIndex (tokens : List LocatedToken) : Nat :=
  go 0 0 tokens
where
  /-- The number with what was counted and the depth of what is open. -/
  go (count depth : Nat) : List LocatedToken → Nat
    | [] => count
    | token :: rest =>
      if token.token.isMark "(" then go (count + 1) (depth + 1) rest
      else if token.token.isMark ")" then
        if depth ≤ 1 then count + 1 else go (count + 1) (depth - 1) rest
      else go (count + 1) depth rest

/-- Whether the next token ends what is printed. -/
def endsPrint (token? : Option RecordToken) : Bool :=
  match token? with
  | none | some .lineEnd => true
  | some (.mark mark) => [";", "\x7d", ">", ">>", "|"].contains mark
  | _ => false

/-- Reads what is printed. -/
def printed (fuel : Nat) : RecordM (List RecordExpr) := do
  let tokens ← get
  if endsPrint (← peek) then return []
  else if (← isMark "(") && endsPrint (tokens[closingIndex tokens]?.map LocatedToken.token) then
    skip
    list fuel ")"
  else
    let rec go : Nat → RecordM (List RecordExpr)
      | 0 => return []
      | count + 1 => do
        let first ← expression fuel { isPrinted := true }
        if ← accept "," then
          skipLines
          return first :: (← go count)
        else return [first]
    go fuel

/-- Reads where something is printed to. -/
def output (fuel : Nat) : RecordM RecordOutput := do
  if ← accept ">" then return .file (← joined fuel)
  else if ← accept ">>" then return .fileEnd (← joined fuel)
  else if ← accept "|" then return .command (← joined fuel)
  else return .standard

/-- Reads the end of a statement. -/
def endStatement : RecordM Unit := do
  match ← peek with
  | none => return
  | some .lineEnd => skip
  | some (.mark ";") => skip
  | some (.mark "\x7d") => return
  | _ => refuse

mutual

/-- Reads a statement that may stand in the head of a loop. -/
def plainStatement : Nat → RecordM RecordStatement
  | 0 => refuse
  | fuel + 1 => do
    let word := match ← peek with
      | some (.name name) | some (.callee name) => String.ofList name
      | _ => ""
    match word with
    | "print" =>
      skip
      let values ← printed fuel
      return .print values (← output fuel)
    | "printf" =>
      skip
      let values ← printed fuel
      return .printFormat values (← output fuel)
    | "delete" =>
      skip
      let name ← variable_
      if ← accept "[" then return .deleteElement name (← list fuel "]")
      else return .deleteArray name
    | _ => return .evaluate (← expression fuel {})

/-- Reads a statement. -/
def statement : Nat → RecordM RecordStatement
  | 0 => refuse
  | fuel + 1 => do
    let word := match ← peek with
      | some (.name name) | some (.callee name) => String.ofList name
      | _ => ""
    let ended (s : RecordStatement) : RecordM RecordStatement := do
      skip
      endStatement
      return s
    let valued (make : Option RecordExpr → RecordStatement) : RecordM RecordStatement := do
      skip
      let value ← if endsPrint (← peek) then pure none else pure (some (← expression fuel {}))
      endStatement
      return make value
    match word with
    | "if" =>
      skip
      expect "("
      let condition ← expression fuel {}
      expect ")"
      let first ← body fuel
      let tokens ← get
      skipEnds
      if ← isWord "else" then
        skip
        return .conditional condition first (some (← body fuel))
      else
        set tokens
        return .conditional condition first none
    | "while" =>
      skip
      expect "("
      let condition ← expression fuel {}
      expect ")"
      if ← accept ";" then return .whileLoop condition (.block [])
      else return .whileLoop condition (← body fuel)
    | "do" =>
      skip
      let body ← body fuel
      skipEnds
      if !(← isWord "while") then refuse
      skip
      expect "("
      let condition ← expression fuel {}
      expect ")"
      endStatement
      return .doLoop body condition
    | "for" =>
      skip
      expect "("
      let isEach : Bool := match (← get) with
        | ⟨.name _, _⟩ :: ⟨.name word, _⟩ :: ⟨.name _, _⟩ :: ⟨.mark ")", _⟩ :: _ =>
          word = "in".toList
        | _ => false
      if isEach then
        let name ← variable_
        skip
        let array ← variable_
        expect ")"
        return .forEach name array (← body fuel)
      else
        let start ← if ← isMark ";" then pure none else pure (some (← plainStatement fuel))
        expect ";"
        skipLines
        let condition ← if ← isMark ";" then pure none else pure (some (← expression fuel {}))
        expect ";"
        skipLines
        let step ← if ← isMark ")" then pure none else pure (some (← plainStatement fuel))
        expect ")"
        if ← accept ";" then return .forLoop start condition step (.block [])
        else return .forLoop start condition step (← body fuel)
    | "break" => ended .breakLoop
    | "continue" => ended .continueLoop
    | "next" | "nextfile" => ended .nextRecord
    | "exit" => valued .exit
    | "return" => valued .giveBack
    | _ =>
      if ← isMark "\x7b" then block fuel
      else if ← accept ";" then return .block []
      else
        let s ← plainStatement fuel
        endStatement
        return s

/-- Reads the body of a loop or a condition. -/
def body : Nat → RecordM RecordStatement
  | 0 => refuse
  | fuel + 1 => do
    skipLines
    statement fuel

/-- Reads a block. -/
def block : Nat → RecordM RecordStatement
  | 0 => refuse
  | fuel + 1 => do
    expect "\x7b"
    return .block (← statements fuel)

/-- Reads statements up to the end of a block. -/
def statements : Nat → RecordM (List RecordStatement)
  | 0 => refuse
  | fuel + 1 => do
    skipEnds
    if (← get).isEmpty then throw (.openBlock 2)
    if ← accept "\x7d" then return []
    else
      let first ← statement fuel
      return first :: (← statements fuel)

end

/-- Reads the names of parameters. -/
def parameters : Nat → RecordM (List (List Char))
  | 0 => refuse
  | fuel + 1 => do
    skipLines
    if ← accept ")" then return []
    else
      let first ← variable_
      skipLines
      let _ ← accept ","
      return first :: (← parameters fuel)

/-- Reads rules and functions. -/
def program : Nat → RecordProgram → RecordM RecordProgram
  | 0, _ => refuse
  | fuel + 1, done => do
    skipEnds
    if (← get).isEmpty then return done
    else if ← isWord "BEGIN" then
      skip
      let s ← block fuel
      program fuel { done with start := done.start ++ [s] }
    else if ← isWord "END" then
      skip
      let s ← block fuel
      program fuel { done with stop := done.stop ++ [s] }
    else if (← isWord "function") || (← isWord "func") then
      skip
      let name ← match ← peek with
        | some (.name name) | some (.callee name) => do
          skip
          pure name
        | _ => refuse
      expect "("
      let parameters ← parameters fuel
      skipLines
      let s ← block fuel
      program fuel { done with functions := done.functions ++ [⟨name, parameters, s⟩] }
    else
      let pattern ←
        if ← isMark "\x7b" then pure RecordPattern.all
        else do
          let first ← expression fuel {}
          if ← accept "," then
            skipLines
            pure (RecordPattern.range first (← expression fuel {}))
          else pure (RecordPattern.one first)
      let action ← if ← isMark "\x7b" then pure (some (← block fuel)) else pure none
      if action.isNone then endStatement
      program fuel { done with rules := done.rules ++ [⟨pattern, action⟩] }

end RecordM

/-- The names of the functions that are called in tokens, with their lines. -/
def calledFunctions (tokens : List LocatedToken) : List (Nat × List Char) :=
  tokens.filterMap fun token =>
    match token.token with
    | .callee name =>
      let word := String.ofList name
      if recordKeywords.contains word || (recordFunctions.lookup word).isSome then none
      else some (token.line, name)
    | _ => none

/-- Reads a program. -/
def RecordProgram.read (text : List Char) : Except RecordSyntaxError RecordProgram := do
  let tokens ← match recordTokens (text.length + 1) 1 [] text with
    | .ok tokens => pure tokens
    | .error (line, error) => throw (.text line error)
  let (program, _) ← (RecordM.program (20 * tokens.length + 20) {}).run tokens
  match (calledFunctions tokens).find? fun (_, name) =>
      !(program.functions.any fun function => function.name = name) with
  | some (line, name) => throw (.undefined line name)
  | none => return program

end TemplateInspector.Utility
