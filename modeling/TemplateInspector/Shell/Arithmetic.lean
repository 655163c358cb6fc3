import TemplateInspector.Shell.Printing

/-!
# Arithmetic of the shell

Expressions over integers of 64 bits, with the operators and precedences of C. Comparisons yield one
or zero. What an operator need not know is not evaluated. Variables are looked up in, and assigned
to, a state of any type.
-/

namespace TemplateInspector.Shell

/-- A token of an expression. -/
inductive ArithmeticToken
  | number (value : Nat)
  | name (name : List Char)
  | symbol (symbol : String)
  /-- A character without a meaning. -/
  | other (c : Char)
  deriving DecidableEq, Repr

/-- An expression. -/
inductive Arithmetic where
  | number (value : Int)
  | name (name : List Char)
  /-- An operator before its operand. -/
  | unary (operator : String) (operand : Arithmetic)
  /-- An operator between its operands. -/
  | binary (operator : String) (left right : Arithmetic)
  /-- The second expression if the first is not zero, else the third. -/
  | choice (condition yes no : Arithmetic)
  /-- A new value for a variable, which an operator may combine with the old one. -/
  | assign (name : List Char) (operator : Option String) (value : Arithmetic)
  deriving DecidableEq, Repr

/-- Why an expression has no value. -/
inductive ArithmeticError
  /-- An operand is missing. -/
  | noOperand
  /-- A symbol is missing. -/
  | noSymbol (symbol : String)
  /-- Something follows the expression. -/
  | noEnd
  /-- A number is divided by zero. -/
  | divisionByZero
  /-- The value of a variable is no number. -/
  | illegalNumber (text : List Char)
  deriving DecidableEq, Repr

namespace ArithmeticToken

/-- The symbols, longer ones before their beginnings. -/
def symbols : List String :=
  ["<<=", ">>=", "&&", "||", "==", "!=", "<=", ">=", "<<", ">>", "+=", "-=", "*=", "/=", "%=", "&=",
    "|=", "^=", "+", "-", "*", "/", "%", "<", ">", "&", "|", "^", "~", "!", "?", ":", "=", "(", ")"]

/-- The number at the beginning of a text: a zero announces octal digits, and with an `x`
hexadecimal ones. -/
def numberAt (text : List Char) : Nat × List Char :=
  let isHexDigit (c : Char) : Bool := (digitOf? c).isSome
  let isMark (text : List Char) : Bool :=
    (text.head? = some 'x' || text.head? = some 'X') && text[1]?.any isHexDigit
  match text with
  | '0' :: rest =>
    if isMark rest then
      (digitsIn 16 ((rest.drop 1).takeWhile isHexDigit), (rest.drop 1).dropWhile isHexDigit)
    else (digitsIn 8 (rest.takeWhile isOctalDigit), rest.dropWhile isOctalDigit)
  | text => (digitsIn 10 (text.takeWhile Char.isDigit), text.dropWhile Char.isDigit)

/-- The tokens of an expression. -/
def ofText : Nat → List Char → Except ArithmeticError (List ArithmeticToken)
  | 0, _ | _, [] => .ok []
  | fuel + 1, c :: rest =>
    if c = ' ' || c = '\t' || c = '\n' then ofText fuel rest
    else if c.isDigit then do
      let (value, rest) := numberAt (c :: rest)
      return .number (min value (Nat.pow 2 63 - 1)) :: (← ofText fuel rest)
    else if c.isAlpha || c = '_' then do
      let isNameChar (c : Char) : Bool := c.isAlphanum || c = '_'
      return .name (c :: rest.takeWhile isNameChar) :: (← ofText fuel (rest.dropWhile isNameChar))
    else match symbols.find? fun found => found.toList.isPrefixOf (c :: rest) with
      | some found => do
        return .symbol found :: (← ofText fuel ((c :: rest).drop found.length))
      | none => do return .other c :: (← ofText fuel rest)

end ArithmeticToken

namespace Arithmetic

/-- The operators between operands, those that bind less tightly first. -/
def levels : List (List String) :=
  [["||"], ["&&"], ["|"], ["^"], ["&"], ["==", "!="], ["<", "<=", ">", ">="], ["<<", ">>"],
    ["+", "-"], ["*", "/", "%"]]

/-- The operators that assign, with the operators that they combine values with. -/
def assignments : List (String × Option String) :=
  [("=", none), ("+=", some "+"), ("-=", some "-"), ("*=", some "*"), ("/=", some "/"),
    ("%=", some "%"), ("<<=", some "<<"), (">>=", some ">>"), ("&=", some "&"), ("|=", some "|"),
    ("^=", some "^")]

/-- What reading a part of an expression yields. -/
abbrev Parsed := Except ArithmeticError (Arithmetic × List ArithmeticToken)

mutual

/-- Reads an expression. -/
def expression : Nat → List ArithmeticToken → Parsed
  | 0, _ => .error .noOperand
  | fuel + 1, tokens =>
    match tokens with
    | .name target :: .symbol symbol :: rest =>
      match assignments.lookup symbol with
      | some operator => do
        let (value, rest) ← expression fuel rest
        return (.assign target operator value, rest)
      | none => conditional fuel tokens
    | tokens => conditional fuel tokens

/-- Reads an expression without an assignment. -/
def conditional : Nat → List ArithmeticToken → Parsed
  | 0, _ => .error .noOperand
  | fuel + 1, tokens => do
    let (condition, rest) ← chain fuel levels tokens
    match rest with
    | .symbol "?" :: rest =>
      let (yes, rest) ← expression fuel rest
      match rest with
      | .symbol ":" :: rest =>
        let (no, rest) ← conditional fuel rest
        return (.choice condition yes no, rest)
      | _ => .error (.noSymbol ":")
    | rest => return (condition, rest)

/-- Reads operands with operators of the given levels between them. -/
def chain : Nat → List (List String) → List ArithmeticToken → Parsed
  | 0, _, _ => .error .noOperand
  | fuel + 1, [], tokens => operand fuel tokens
  | fuel + 1, level :: levels, tokens => do
    let (first, rest) ← chain fuel levels tokens
    continued fuel level levels first rest

/-- Reads what follows the first operands of a chain. -/
def continued : Nat → List String → List (List String) → Arithmetic → List ArithmeticToken → Parsed
  | 0, _, _, _, _ => .error .noOperand
  | fuel + 1, level, levels, first, tokens =>
    match tokens with
    | .symbol symbol :: rest =>
      if level.contains symbol then do
        let (second, rest) ← chain fuel levels rest
        continued fuel level levels (.binary symbol first second) rest
      else .ok (first, tokens)
    | tokens => .ok (first, tokens)

/-- Reads an operand with the operators before it. -/
def operand : Nat → List ArithmeticToken → Parsed
  | 0, _ => .error .noOperand
  | fuel + 1, tokens =>
    match tokens with
    | .number value :: rest => .ok (.number value, rest)
    | .name found :: rest => .ok (.name found, rest)
    | .symbol "(" :: rest => do
      let (inner, rest) ← expression fuel rest
      match rest with
      | .symbol ")" :: rest => return (inner, rest)
      | _ => .error (.noSymbol ")")
    | .symbol symbol :: rest =>
      if ["+", "-", "!", "~"].contains symbol then do
        let (inner, rest) ← operand fuel rest
        return (.unary symbol inner, rest)
      else .error .noOperand
    | .other _ :: _ | [] => .error .noOperand

end

/-- Reads a text as an expression. -/
def parse (text : List Char) : Except ArithmeticError Arithmetic := do
  let tokens ← ArithmeticToken.ofText (text.length + 1) text
  let (result, rest) ← expression (32 * (tokens.length + 1)) tokens
  if rest.isEmpty then return result else .error .noEnd

/-- An integer within 64 bits. -/
def wrap (n : Int) : Int :=
  n.bmod (Nat.pow 2 64)

/-- One for true and zero for false. -/
def truth (b : Bool) : Int :=
  if b then 1 else 0

/-- Applies an operation on words to the bits of integers. -/
def onBits (operation : UInt64 → UInt64 → UInt64) (a b : Int) : Int :=
  let bits (n : Int) : UInt64 := UInt64.ofNat (n % Nat.pow 2 64).toNat
  wrap (operation (bits a) (bits b)).toNat

/-- The value of an operator before its operand. -/
def applyUnary (operator : String) (a : Int) : Int :=
  match operator with
  | "-" => wrap (-a)
  | "!" => truth (a = 0)
  | "~" => -a - 1
  | _ => a

/-- The value of an operator between its operands. Division goes toward zero. -/
def applyBinary (operator : String) (a b : Int) : Except ArithmeticError Int :=
  match operator with
  | "*" => .ok (wrap (a * b))
  | "/" => if b = 0 then .error .divisionByZero else .ok (wrap (a.tdiv b))
  | "%" => if b = 0 then .error .divisionByZero else .ok (a.tmod b)
  | "+" => .ok (wrap (a + b))
  | "-" => .ok (wrap (a - b))
  | "<<" => .ok (wrap (a * Nat.pow 2 (b % 64).toNat))
  | ">>" => .ok (a.fdiv (Nat.pow 2 (b % 64).toNat))
  | "<" => .ok (truth (a < b))
  | "<=" => .ok (truth (a ≤ b))
  | ">" => .ok (truth (b < a))
  | ">=" => .ok (truth (b ≤ a))
  | "==" => .ok (truth (a = b))
  | "!=" => .ok (truth (a ≠ b))
  | "&" => .ok (onBits (· &&& ·) a b)
  | "^" => .ok (onBits (· ^^^ ·) a b)
  | "|" => .ok (onBits (· ||| ·) a b)
  | _ => .error .noOperand

/-- The integer that the value of a variable writes. -/
def ofValue (text : List Char) : Except ArithmeticError Int :=
  let isSpace (c : Char) : Bool := c = ' ' || ('\t' ≤ c && c ≤ '\r')
  let trimmed := ((text.dropWhile isSpace).reverse.dropWhile isSpace).reverse
  let digits := match trimmed with
    | '-' :: rest | '+' :: rest => rest
    | digits => digits
  let isNegative := trimmed.head? = some '-'
  match ArithmeticToken.numberAt digits with
  | (value, []) =>
    if text.isEmpty then .ok 0
    else if digits.isEmpty || Nat.pow 2 63 ≤ value && !(isNegative && value = Nat.pow 2 63) then
      .error (.illegalNumber text)
    else .ok (if isNegative then -(value : Int) else value)
  | _ => .error (.illegalNumber text)

variable {σ : Type} (get? : σ → List Char → Option (List Char)) (set : σ → List Char → Int → σ)

/-- The value of a variable, which is zero if it is missing. -/
def lookUp (s : σ) (wanted : List Char) : Except ArithmeticError Int :=
  ofValue ((get? s wanted).getD [])

/-- The value of an expression, and the state after its assignments. -/
def evaluate : Arithmetic → σ → Except ArithmeticError (Int × σ)
  | .number value, s => .ok (wrap value, s)
  | .name wanted, s => (lookUp get? s wanted).map (·, s)
  | .unary operator operand, s => do
    let (a, s) ← evaluate operand s
    return (applyUnary operator a, s)
  | .binary operator left right, s => do
    let (a, s) ← evaluate left s
    match operator, decide (a = 0) with
    | "&&", true => return (0, s)
    | "||", false => return (1, s)
    | operator, _ =>
      let (b, s) ← evaluate right s
      if operator = "&&" || operator = "||" then return (truth (b ≠ 0), s)
      else return (← applyBinary operator a b, s)
  | .choice condition yes no, s => do
    let (a, s) ← evaluate condition s
    if a = 0 then evaluate no s else evaluate yes s
  | .assign target operator value, s => do
    let (b, s) ← evaluate value s
    let result ← match operator with
      | none => pure b
      | some operator => do applyBinary operator (← lookUp get? s target) b
    return (result, set s target result)

end Arithmetic

/-- The text that reports why an expression has no value. -/
def ArithmeticError.message (text : List Char) : ArithmeticError → List Char
  | .illegalNumber value => "Illegal number: ".toList ++ value
  | error =>
    let reason := match error with
      | .noOperand => "expecting primary"
      | .noSymbol symbol => "expecting '" ++ symbol ++ "'"
      | .divisionByZero => "division by zero"
      | _ => "expecting EOF"
    ("arithmetic expression: " ++ reason ++ ": \"").toList ++ text ++ ['"']

end TemplateInspector.Shell
