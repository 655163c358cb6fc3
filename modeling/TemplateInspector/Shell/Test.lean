import TemplateInspector.Shell.State

/-!
# Tests

The language of the commands `test` and `[`: tests of texts, numbers and files, and their negations
and combinations. A word is taken for an operator only where one can stand.
-/

namespace TemplateInspector.Shell

/-- The natural number that a text writes. -/
def natural? (text : List Char) : Option Nat :=
  if !text.isEmpty && text.all Char.isDigit then some (digitsIn 10 text) else none

/-- The integer that a text writes, between blanks. -/
def integer? (text : List Char) : Option Int :=
  let isSpace (c : Char) : Bool := c = ' ' || c = '\t' || c = '\n'
  match ((text.dropWhile isSpace).reverse.dropWhile isSpace).reverse with
  | '-' :: rest => (natural? rest).map fun n => -(n : Int)
  | '+' :: rest => (natural? rest).map fun n => (n : Int)
  | text => (natural? text).map fun n => (n : Int)

namespace State

/-- Whether something is at a path of which a property holds. -/
def testFile (s : State) (path : List Char) (test : FileNode → Bool) : Bool :=
  match s.files.find s.directory (Text.shown path) with
  | .ok node => test node
  | .error _ => false

/-- What a test comes to, with the arguments that it leaves. A fault is a text. -/
abbrev Tested := Except (List Char) (Bool × List (List Char))

/-- The value of a test with one operand; none if there is no such test. -/
def testOne? (s : State) (operator : String) (operand : List Char) : Option Bool :=
  match operator with
  | "-n" => some !operand.isEmpty
  | "-z" => some operand.isEmpty
  | "-e" | "-r" | "-w" => some (s.testFile operand fun _ => true)
  | "-f" => some (s.testFile operand fun
      | .file .. | .utility _ => true
      | _ => false)
  | "-d" => some (s.testFile operand fun
      | .directory => true
      | _ => false)
  | "-x" => some (s.testFile operand fun
      | .file _ executable => executable
      | .utility _ | .directory => true
      | .sink => false)
  | "-s" => some (s.testFile operand fun
      | .file bytes _ => !bytes.isEmpty
      | .utility _ | .directory => true
      | .sink => false)
  | "-h" | "-L" | "-t" | "-p" | "-S" | "-b" | "-u" | "-g" | "-k" => some false
  | "-c" => some (s.testFile operand fun
      | .sink => true
      | _ => false)
  | _ => none

/-- The tests with two operands. -/
def binaryTests : List String :=
  ["=", "!=", "<", ">", "-eq", "-ne", "-lt", "-le", "-gt", "-ge", "-nt", "-ot", "-ef"]

/-- Whether two paths lead to the same place. -/
def leadToSame (s : State) (left right : List Char) : Bool :=
  match s.files.resolve s.directory (Text.shown left),
      s.files.resolve s.directory (Text.shown right)
    with
  | .ok place, .ok other => place = other && (s.files.node? place).isSome
  | _, _ => false

/-- The value of a test with two operands. All files are of the same age. -/
def testTwo (s : State) (operator : String) (left right : List Char) : Except (List Char) Bool :=
  let number (text : List Char) : Except (List Char) Int :=
    match integer? text with
    | some n => .ok n
    | none => .error ("Illegal number: ".toList ++ text)
  let numbers (compare : Int → Int → Bool) : Except (List Char) Bool := do
    return compare (← number left) (← number right)
  match operator with
  | "=" => .ok (left = right)
  | "!=" => .ok (left ≠ right)
  | "<" => .ok (left < right)
  | ">" => .ok (right < left)
  | "-eq" => numbers fun a b => a = b
  | "-ne" => numbers fun a b => a ≠ b
  | "-lt" => numbers fun a b => a < b
  | "-le" => numbers fun a b => a ≤ b
  | "-gt" => numbers fun a b => b < a
  | "-ef" => .ok (s.leadToSame left right)
  | "-nt" | "-ot" => .ok false
  | _ => numbers fun a b => b ≤ a

/-- Whether a word is an operator with two operands. -/
def isBinaryTest (word : List Char) : Bool :=
  binaryTests.contains (String.ofList word)

/-- Whether the words behind an operator with one operand make it an operand itself. -/
def isOperand : List (List Char) → Bool
  | [] => true
  | [_] => false
  | next :: _ => isBinaryTest next

/-- A test with two operands, or of one word alone. -/
def testBinary (s : State) (first : List Char) : List (List Char) → Tested
  | operator :: rest =>
    if isBinaryTest operator then
      match rest with
      | right :: rest => do return (← s.testTwo (String.ofList operator) first right, rest)
      | [] => .error (operator ++ ": argument expected".toList)
    else .ok (!first.isEmpty, operator :: rest)
  | [] => .ok (!first.isEmpty, [])

mutual

/-- Tests of which one has to hold. `fuel` bounds the number of steps. -/
def testAny (s : State) : Nat → List (List Char) → Tested
  | 0, rest => .ok (false, rest)
  | fuel + 1, words => do
    match ← s.testAll fuel words with
    | (value, ['-', 'o'] :: rest) =>
      let (other, rest) ← s.testAny fuel rest
      return (value || other, rest)
    | result => return result

/-- Tests all of which have to hold. -/
def testAll (s : State) : Nat → List (List Char) → Tested
  | 0, rest => .ok (false, rest)
  | fuel + 1, words => do
    match ← s.testNot fuel words with
    | (value, ['-', 'a'] :: rest) =>
      let (other, rest) ← s.testAll fuel rest
      return (value && other, rest)
    | result => return result

/-- A test that may be negated. -/
def testNot (s : State) : Nat → List (List Char) → Tested
  | 0, rest => .ok (false, rest)
  | fuel + 1, words => do
    match words with
    | ['!'] :: rest =>
      let (value, rest) ← s.testNot fuel rest
      return (!value, rest)
    | words => s.testWord fuel words

/-- A test of words. -/
def testWord (s : State) : Nat → List (List Char) → Tested
  | 0, rest => .ok (false, rest)
  | fuel + 1, words => do
    match words with
    | [] => return (false, [])
    | ['('] :: [')'] :: rest => return (false, rest)
    | ['('] :: next :: rest =>
      match ← s.testAny fuel (next :: rest) with
      | (value, [')'] :: rest) => return (value, rest)
      | _ => .error "closing paren expected".toList
    | first :: rest =>
      if isOperand rest then s.testBinary first rest
      else match s.testOne? (String.ofList first) (rest.headD []) with
        | some value => return (value, rest.drop 1)
        | none => s.testBinary first rest

end

/-- The value of words that are not told apart by their number. A word that is left over is a
fault, which the last word before it is blamed for. -/
def testWords (s : State) (words : List (List Char)) : Except (List Char) Bool := do
  let (value, rest) ← s.testAny (4 * words.length + 4) words
  if rest.isEmpty then return value
  else .error ((words[words.length - rest.length - 1]?).getD [] ++ ": unexpected operator".toList)

/-- The value of a test. Three words are a test with two operands if the second is an operator. -/
def test (s : State) (words : List (List Char)) : Except (List Char) Bool :=
  match words with
  | [left, operator, right] =>
    if isBinaryTest operator then s.testTwo (String.ofList operator) left right
    else s.testWords words
  | [['!'], left, operator, right] =>
    if isBinaryTest operator then (s.testTwo (String.ofList operator) left right).map not
    else s.testWords words
  | _ => s.testWords words

end State

end TemplateInspector.Shell
