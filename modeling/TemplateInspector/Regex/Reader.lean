import TemplateInspector.Regex.Basic

/-!
# Reading regular expressions

Two ways to write regular expressions: the basic one, in which most operators have a backslash, and
the extended one, in which a backslash takes an operator its meaning. A strict reader refuses
operators that have nothing to work on; a lenient one reads them as if they were not there, or as
characters.
-/

namespace TemplateInspector

/-- How regular expressions are written. -/
structure RegexDialect where
  /-- Whether operators are written without a backslash. -/
  extended : Bool := false
  /-- Whether operators that have nothing to work on are refused. -/
  strict : Bool := false
  /-- Whether a backslash hides the next character in brackets. -/
  bracketEscapes : Bool := false
  /-- Whether a backslash and a letter may stand for the digits. -/
  hasDigits : Bool := false
  /-- Whether the places around line feeds count as the start and the end of the text. -/
  multiline : Bool := false
  deriving DecidableEq, Repr

/-- Why a text is no regular expression. -/
inductive RegexError
  /-- A repetition has nothing to repeat. -/
  | nothingToRepeat
  /-- The bounds of a repetition do not end. -/
  | openBounds
  /-- The bounds of a repetition are no bounds. -/
  | badBounds
  /-- A repetition is too often. -/
  | tooOften
  | openGroup
  | strayGroupEnd
  | openBracket
  /-- A bracket is the last character. -/
  | lastBracket
  /-- A range runs backwards. -/
  | badRange
  /-- No class of characters has this name. -/
  | unknownClass
  | trailingBackslash
  /-- No group has this number. -/
  | unknownGroup
  deriving DecidableEq, Repr

/-- The text that reports why a text is no regular expression. -/
def RegexError.message : RegexError → String
  | nothingToRepeat => "Invalid preceding regular expression"
  | openBounds => "Unmatched \\\x7b"
  | badBounds => "Invalid content of \\\x7b\\\x7d"
  | tooOften => "Regular expression too big"
  | openGroup => "Unmatched ( or \\("
  | strayGroupEnd => "Unmatched ) or \\)"
  | openBracket => "Unmatched [, [^, [:, [., or [="
  | lastBracket => "Invalid regular expression"
  | badRange => "Invalid range end"
  | unknownClass => "Invalid character class name"
  | trailingBackslash => "Trailing backslash"
  | unknownGroup => "Invalid back reference"

namespace Regex

/-- The ranges of the class of characters of a name. -/
def classRanges? : String → Option (List (Char × Char))
  | "alpha" => some [('a', 'z'), ('A', 'Z')]
  | "digit" => some [('0', '9')]
  | "alnum" => some [('a', 'z'), ('A', 'Z'), ('0', '9')]
  | "upper" => some [('A', 'Z')]
  | "lower" => some [('a', 'z')]
  | "space" => some [('\t', '\r'), (' ', ' ')]
  | "blank" => some [('\t', '\t'), (' ', ' ')]
  | "punct" => some [('!', '/'), (':', '@'), ('[', '\x60'), ('\x7b', '~')]
  | "print" => some [(' ', '~')]
  | "graph" => some [('!', '~')]
  | "cntrl" => some [('\x00', '\x1f'), ('\x7f', '\x7f')]
  | "xdigit" => some [('0', '9'), ('a', 'f'), ('A', 'F')]
  | _ => none

/-- An operator. -/
inductive Operator
  | repeated (least : Nat) (most : Option Nat)
  | alternative
  | groupStart
  | groupEnd
  | start
  | stop
  deriving DecidableEq, Repr

/-- A token of a regular expression. -/
inductive Token
  /-- An operator, and the character that it is if it is none. -/
  | operator (operator : Operator) (written : Char)
  /-- An expression that does not depend on what is around it. -/
  | item (r : Regex)

/-- What is written between a bracket, its mark and the same mark with a closing bracket. -/
def markedName? (mark : Char) (text : List Char) : Option (List Char × List Char) :=
  let rec go (name : List Char) : List Char → Option (List Char × List Char)
    | [] => none
    | [_] => none
    | c :: d :: rest =>
      if c = mark && d = ']' then some (name.reverse, rest) else go (c :: name) (d :: rest)
  go [] text

/-- Reads a character in brackets, with the marks around it if it has any. -/
def bracketChar? (dialect : RegexDialect) : List Char → Except RegexError (Char × List Char)
  | '[' :: '.' :: rest | '[' :: '=' :: rest =>
    match rest with
    | c :: _ :: ']' :: rest => .ok (c, rest)
    | _ => .error .openBracket
  | '\\' :: c :: rest =>
    if dialect.bracketEscapes then
      .ok (if c = 'n' then '\n' else if c = 't' then '\t' else c, rest)
    else .ok ('\\', c :: rest)
  | c :: rest => .ok (c, rest)
  | [] => .error .openBracket

/-- Reads the ranges in brackets up to the closing one, which may be the first character in them.
`fuel` bounds the number of ranges. -/
def bracketRanges (dialect : RegexDialect) : Nat → Bool → List (Char × Char) → List Char →
    Except RegexError (List (Char × Char) × List Char)
  | 0, _, _, _ | _, _, _, [] => .error .openBracket
  | fuel + 1, isFirst, ranges, c :: rest =>
    if c = ']' && !isFirst then .ok (ranges, rest)
    else match c, rest with
      | '[', ':' :: more =>
        match markedName? ':' more with
        | none => .error .openBracket
        | some (name, rest) =>
          match classRanges? (String.ofList name) with
          | none => .error .unknownClass
          | some more =>
            if rest.head? = some '-' && rest[1]?.any (· ≠ ']') then .error .badRange
            else bracketRanges dialect fuel false (ranges ++ more) rest
      | _, _ => do
        let (low, rest) ← bracketChar? dialect (c :: rest)
        match rest with
        | '-' :: ']' :: _ => bracketRanges dialect fuel false (ranges ++ [(low, low)]) rest
        | '-' :: more =>
          let (high, rest) ← bracketChar? dialect more
          if high < low then .error .badRange
          else bracketRanges dialect fuel false (ranges ++ [(low, high)]) rest
        | rest => bracketRanges dialect fuel false (ranges ++ [(low, low)]) rest

/-- Reads the set in brackets behind the opening one. -/
def bracketSet (dialect : RegexDialect) (text : List Char) :
    Except RegexError (CharSet × List Char) := do
  let (negated, text) := match text with
    | '^' :: rest => (true, rest)
    | text => (false, text)
  if text.isEmpty then throw .lastBracket
  let (ranges, rest) ← bracketRanges dialect (text.length + 1) true [] text
  return (⟨negated, ranges⟩, rest)

/-- The greatest number of rounds of a repetition. -/
def maxRounds : Nat := 32767

/-- Reads the bounds of a repetition behind the opening brace. -/
def bounds? (extended : Bool) (text : List Char) :
    Except RegexError ((Nat × Option Nat) × List Char) :=
  let value (digits : List Char) : Nat :=
    digits.foldl (fun n c => 10 * n + (c.toNat - '0'.toNat)) 0
  let first := text.takeWhile Char.isDigit
  let rest := text.drop first.length
  let (second, rest) := match rest with
    | ',' :: rest => (some (rest.takeWhile Char.isDigit), rest.dropWhile Char.isDigit)
    | rest => (none, rest)
  let behind := if extended then
      match rest with
      | '\x7d' :: rest => some rest
      | _ => none
    else match rest with
      | '\\' :: '\x7d' :: rest => some rest
      | _ => none
  match behind with
  | none => .error (if rest.isEmpty || rest = ['\\'] then .openBounds else .badBounds)
  | some rest =>
    let least := value first
    let most := match second with
      | none => some least
      | some digits => if digits.isEmpty then none else some (value digits)
    if first.isEmpty && second.isNone then .error .badBounds
    else if most.any (· < least) then .error .badBounds
    else if maxRounds < least || most.any (maxRounds < ·) then .error .tooOften
    else .ok ((least, most), rest)

/-- The expression that a backslash and a letter stand for. -/
def escapedItem? (dialect : RegexDialect) (c : Char) : Option Regex :=
  let digits : CharSet := { ranges := [('0', '9')] }
  match c with
  | 'd' => if dialect.hasDigits then some (.one digits) else none
  | 'D' => if dialect.hasDigits then some (.one digits.complement) else none
  | 'w' => some (.one .word)
  | 'W' => some (.one CharSet.word.complement)
  | 's' => some (.one .blank)
  | 'S' => some (.one CharSet.blank.complement)
  | 'b' => some (.anchor .wordEdge)
  | 'B' => some (.anchor .noWordEdge)
  | '<' => some (.anchor .wordStart)
  | '>' => some (.anchor .wordEnd)
  | '\x60' => some (.anchor .textStart)
  | '\'' => some (.anchor .textEnd)
  | c =>
    if '1' ≤ c && c ≤ '9' then some (.back (c.toNat - '0'.toNat)) else none

/-- The operator that a character is; braces are looked at elsewhere. -/
def operatorOf? : Char → Option Operator
  | '*' => some (.repeated 0 none)
  | '+' => some (.repeated 1 none)
  | '?' => some (.repeated 0 (some 1))
  | '|' => some .alternative
  | '(' => some .groupStart
  | ')' => some .groupEnd
  | _ => none

/-- Divides a text into tokens. `fuel` bounds their number. -/
def tokens (dialect : RegexDialect) : Nat → List Char → Except RegexError (List Token)
  | 0, _ | _, [] => .ok []
  | fuel + 1, c :: rest => do
    let literal (c : Char) (rest : List Char) : Except RegexError (List Token) := do
      return .item (.one (.single c)) :: (← tokens dialect fuel rest)
    if c = '[' then
      let (set, rest) ← bracketSet dialect rest
      return .item (.one set) :: (← tokens dialect fuel rest)
    else if c = '.' then return .item (.one .all) :: (← tokens dialect fuel rest)
    else if c = '^' then return .operator .start c :: (← tokens dialect fuel rest)
    else if c = '$' then return .operator .stop c :: (← tokens dialect fuel rest)
    else if c = '\\' then
      match rest with
      | [] => .error .trailingBackslash
      | d :: rest =>
        if !dialect.extended && d = '\x7b' then
          let ((least, most), rest) ← bounds? false rest
          return .operator (.repeated least most) d :: (← tokens dialect fuel rest)
        else match if dialect.extended then none else operatorOf? d with
          | some operator =>
            if d = '*' then literal d rest
            else return .operator operator d :: (← tokens dialect fuel rest)
          | none => match escapedItem? dialect d with
            | some r => return .item r :: (← tokens dialect fuel rest)
            | none => literal d rest
    else if dialect.extended && c = '\x7b' then
      match bounds? true rest with
      | .ok ((least, most), rest) =>
        return .operator (.repeated least most) c :: (← tokens dialect fuel rest)
      | .error .tooOften => .error .tooOften
      | .error error =>
        let isReversed := (rest.takeWhile fun c => c.isDigit || c = ',').length <
          (rest.takeWhile (· ≠ '\x7d')).length
        if dialect.strict || (error = .badBounds && !isReversed &&
            rest.contains '\x7d' && rest.head?.any Char.isDigit) then .error error
        else literal c rest
    else match if dialect.extended || c = '*' then operatorOf? c else none with
      | some operator => return .operator operator c :: (← tokens dialect fuel rest)
      | none => literal c rest

/-- What is left to be read, and the groups that were begun and ended. -/
structure Reading where
  /-- The tokens that have not been read. -/
  rest : List Token
  /-- The number of groups that were begun. -/
  begun : Nat := 0
  /-- The groups that have ended. -/
  ended : List Nat := []
  /-- The operators that have nothing to work on, last first. -/
  loose : List Char := []

/-- What reads a part of a regular expression. -/
abbrev ReadM := StateT Reading (Except RegexError)

/-- Puts an expression behind another one. -/
def behind : Regex → Regex → Regex
  | .empty, second => second
  | first, second => .seq first second

/-- Whether an expression is empty. -/
def isEmpty : Regex → Bool
  | .empty => true
  | _ => false

mutual

/-- Reads alternatives. `depth` is the number of groups around them. -/
def readAlternatives (dialect : RegexDialect) : Nat → Nat → ReadM Regex
  | 0, _ => return .empty
  | fuel + 1, depth => do
    let first ← readBranch dialect fuel depth true .empty
    match (← get).rest with
    | .operator .alternative _ :: rest =>
      modify fun s => { s with rest }
      return .alt first (← readAlternatives dialect fuel depth)
    | _ => return first

/-- Reads a branch, of which the given part has been read. `isFresh` tells whether there is nothing
that an operator could work on. -/
def readBranch (dialect : RegexDialect) : Nat → Nat → Bool → Regex → ReadM Regex
  | 0, _, _, done => return done
  | fuel + 1, depth, isFresh, done => do
    let goOn (r : Regex) : ReadM Regex := do
      readBranch dialect fuel depth false (behind done (← readRepetitions dialect fuel r))
    match (← get).rest with
    | [] => return done
    | .item r :: rest =>
      modify fun s => { s with rest }
      if let .back number := r then
        if !(← get).ended.contains number then throw .unknownGroup
      if let .anchor _ := r then readBranch dialect fuel depth isFresh (behind done r)
      else goOn r
    | .operator operator written :: rest =>
      let literal : ReadM Regex := do
        modify fun s => { s with rest }
        goOn (.one (.single written))
      let anchored (place : Anchor) : ReadM Regex := do
        modify fun s => { s with rest }
        readBranch dialect fuel depth true (behind done (.anchor place))
      match operator with
      | .alternative => return done
      | .groupEnd =>
        if 0 < depth then return done
        else if dialect.extended && !dialect.strict then literal
        else throw .strayGroupEnd
      | .groupStart =>
        let number := (← get).begun + 1
        modify fun s => { s with rest, begun := number }
        let inner ← readAlternatives dialect fuel (depth + 1)
        match (← get).rest with
        | .operator .groupEnd _ :: rest =>
          modify fun s => { s with rest, ended := number :: s.ended }
          goOn (.group number inner)
        | _ => throw .openGroup
      | .start =>
        if dialect.extended || (isFresh && done.isEmpty) then
          anchored (if dialect.multiline then .lineStart else .textStart)
        else literal
      | .stop =>
        let isLast := match rest with
          | [] | .operator .groupEnd _ :: _ | .operator .alternative _ :: _ => true
          | _ => false
        if dialect.extended || isLast then
          anchored (if dialect.multiline then .lineEnd else .textEnd)
        else literal
      | .repeated .. =>
        if !dialect.extended && written ≠ '\x7b' then literal
        else if dialect.strict then throw .nothingToRepeat
        else
          modify fun s => { s with
            rest, loose := if dialect.extended then written :: s.loose else s.loose }
          readBranch dialect fuel depth isFresh done

/-- Reads the repetitions behind an expression. -/
def readRepetitions (dialect : RegexDialect) : Nat → Regex → ReadM Regex
  | 0, r => return r
  | fuel + 1, r => do
    match (← get).rest with
    | .operator (.repeated least most) _ :: rest =>
      modify fun s => { s with rest }
      let isBasicRepetition : Token → Bool
        | .operator (.repeated ..) c => c = '*' || c = '\x7b'
        | _ => false
      if dialect.strict && !dialect.extended && rest.head?.any isBasicRepetition then
        throw .nothingToRepeat
      readRepetitions dialect fuel (.repeated least most r)
    | _ => return r

end

/-- Reads a regular expression, with what is known when it has been read. -/
def readText (dialect : RegexDialect) (text : List Char) : Except RegexError (Regex × Reading) := do
  let tokens ← tokens dialect (text.length + 1) text
  (readAlternatives dialect (3 * tokens.length + 3) 0).run { rest := tokens }

/-- Reads a regular expression, with the number of its groups. -/
def read (dialect : RegexDialect) (text : List Char) : Except RegexError (Regex × Nat) :=
  (readText dialect text).map fun (r, final) => (r, final.begun)

end Regex

end TemplateInspector
