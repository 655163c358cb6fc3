import TemplateInspector.Number.Printed
import TemplateInspector.Text.Word

/-!
# Formatted printing

How `echo` and `printf` write their arguments. The shell and the programs of the system differ in
the escapes that they know; both reuse a format while there are arguments left.
-/

namespace TemplateInspector.Shell

/-- Which escapes are known. -/
structure EscapeRules where
  /-- A backslash and up to three octal digits stand for a byte. -/
  octal : Bool := false
  /-- A backslash, a zero and up to three octal digits stand for a byte. -/
  zeroOctal : Bool := false
  /-- A backslash, an `x` and up to two hexadecimal digits stand for a byte. -/
  hex : Bool := false
  /-- A backslash and a `c` end the output. -/
  stops : Bool := false
  /-- A backslash and a double quote stand for the quote. -/
  quote : Bool := false
  /-- A backslash and an `e` stand for the escape character. -/
  escape : Bool := false

namespace EscapeRules

/-- The escapes in a format of the shell. -/
def shellFormat : EscapeRules := { octal := true, escape := true }

/-- The escapes in an argument of the shell. -/
def shellArgument : EscapeRules :=
  { octal := true, zeroOctal := true, stops := true, escape := true }

/-- The escapes in a format of the system. -/
def systemFormat : EscapeRules :=
  { octal := true, hex := true, stops := true, quote := true, escape := true }

/-- The escapes in an argument of the system. -/
def systemArgument : EscapeRules :=
  { zeroOctal := true, hex := true, stops := true, escape := true }

end EscapeRules

/-- What an escape stands for. -/
inductive Escape
  /-- A byte, with the text behind the escape. -/
  | byte (c : Char) (rest : List Char)
  /-- The end of the output. -/
  | stop
  /-- Nothing: the backslash stands for itself. -/
  | unknown
  deriving DecidableEq, Repr

/-- Whether a character is an octal digit. -/
def isOctalDigit (c : Char) : Bool :=
  '0' ≤ c && c ≤ '7'

/-- The value of a digit of a base up to sixteen; none for any other character. -/
def digitOf? (c : Char) : Option Nat :=
  if c.isDigit then some (c.toNat - '0'.toNat)
  else if 'a' ≤ c && c ≤ 'f' then some (c.toNat - 'a'.toNat + 10)
  else if 'A' ≤ c && c ≤ 'F' then some (c.toNat - 'A'.toNat + 10)
  else none

/-- The number that digits of a base write. -/
def digitsIn (base : Nat) (digits : List Char) : Nat :=
  digits.foldl (fun n c => base * n + (digitOf? c).getD 0) 0

/-- The byte that digits at the beginning of a text write, at most `count` of them. -/
def byteAt (base count : Nat) (isDigit : Char → Bool) (text : List Char) : Escape :=
  let digits := (text.take count).takeWhile isDigit
  .byte (Char.ofNat (digitsIn base digits % 256)) (text.drop digits.length)

/-- The escape behind a backslash. -/
def escapeAt (rules : EscapeRules) : List Char → Escape
  | [] => .unknown
  | c :: rest =>
    if c = '0' && rules.zeroOctal then byteAt 8 3 isOctalDigit rest
    else if isOctalDigit c && rules.octal then byteAt 8 3 isOctalDigit (c :: rest)
    else if c = 'x' && rules.hex && rest.head?.any (fun c => (digitOf? c).isSome) then
      byteAt 16 2 (fun c => (digitOf? c).isSome) rest
    else if c = 'c' && rules.stops then .stop
    else if c = '"' && rules.quote then .byte '"' rest
    else if c = 'e' && rules.escape then .byte '\x1b' rest
    else match c with
      | '\\' => .byte '\\' rest
      | 'a' => .byte '\x07' rest
      | 'b' => .byte '\x08' rest
      | 'f' => .byte '\x0c' rest
      | 'n' => .byte '\n' rest
      | 'r' => .byte '\r' rest
      | 't' => .byte '\t' rest
      | 'v' => .byte '\x0b' rest
      | _ => .unknown

/-- A text with its escapes replaced, and whether one of them ended the output. -/
def unescape (rules : EscapeRules) : Nat → List Char → List Char × Bool
  | 0, _ | _, [] => ([], false)
  | fuel + 1, c :: rest =>
    let after (c : Char) (rest : List Char) : List Char × Bool :=
      let (text, stopped) := unescape rules fuel rest
      (c :: text, stopped)
    if c = '\\' then
      match escapeAt rules rest with
      | .byte c rest => after c rest
      | .stop => ([], true)
      | .unknown => after c rest
    else after c rest

/-- A text with its escapes replaced. -/
def unescaped (rules : EscapeRules) (text : List Char) : List Char × Bool :=
  unescape rules (text.length + 1) text

/-- What `echo` of the shell prints. -/
def shellEcho (arguments : List (List Char)) : List Char :=
  let (newline, arguments) := match arguments with
    | ['-', 'n'] :: rest => (false, rest)
    | arguments => (true, arguments)
  let (text, stopped) := unescaped .shellArgument ([' '].intercalate arguments)
  if newline && !stopped then text ++ ['\n'] else text

/-- Whether an argument holds options of `echo` of the system. -/
def isEchoOption : List Char → Bool
  | '-' :: c :: rest => (c :: rest).all fun c => c = 'n' || c = 'e' || c = 'E'
  | _ => false

/-- What `echo` of the system prints. -/
def systemEcho (arguments : List (List Char)) : List Char :=
  let options := (arguments.takeWhile isEchoOption).flatMap (·.drop 1)
  let line := [' '].intercalate (arguments.dropWhile isEchoOption)
  let escapes := (options.filter (· ≠ 'n')).getLast? = some 'e'
  let (text, stopped) :=
    if escapes then unescaped .systemArgument line
    else (line, false)
  if !options.contains 'n' && !stopped then text ++ ['\n'] else text

/-- What is wrong with a format or an argument. -/
inductive PrintComplaint
  /-- An argument begins with no number. -/
  | noNumber (argument : List Char)
  /-- An argument goes on behind its number. -/
  | textBehind (argument : List Char)
  | outOfRange (argument : List Char)
  | missingLetter
  | unknownDirective (text : List Char)
  /-- Arguments are left that the format does not ask for. -/
  | unused (argument : List Char)
  deriving DecidableEq, Repr

/-- How the shell tells what is wrong. -/
def PrintComplaint.shellMessage : PrintComplaint → List Char
  | noNumber argument => argument ++ ": expected numeric value".toList
  | textBehind argument => argument ++ ": not completely converted".toList
  | outOfRange argument => argument ++ ": Numerical result out of range".toList
  | missingLetter => "missing format character".toList
  | unknownDirective text => text ++ ": invalid directive".toList
  | unused _ => []

/-- How the program of the system tells what is wrong. -/
def PrintComplaint.systemMessage : PrintComplaint → List Char
  | noNumber argument => '\'' :: argument ++ "': expected a numeric value".toList
  | textBehind argument => '\'' :: argument ++ "': value not completely converted".toList
  | outOfRange argument => '\'' :: argument ++ "': Numerical result out of range".toList
  | missingLetter => "%: invalid conversion specification".toList
  | unknownDirective text => text ++ ": invalid conversion specification".toList
  | unused argument =>
    "warning: ignoring excess arguments, starting with '".toList ++ argument ++ ['\'']

/-- A printout in progress. -/
structure Printout where
  /-- What was printed. -/
  text : List Char := []
  /-- The arguments that are left. -/
  arguments : List (List Char)
  /-- Whether the output has ended. -/
  stopped : Bool := false
  /-- The complaints so far. -/
  complaints : List PrintComplaint := []

/-- A number that an argument writes, and what is wrong with it. -/
def numberOf (argument : List Char) : Int × Option PrintComplaint :=
  let isBlank (c : Char) : Bool := c = ' ' || ('\t' ≤ c && c ≤ '\r')
  let start := argument.dropWhile isBlank
  let (negative, text) := match start with
    | '-' :: rest => (true, rest)
    | '+' :: rest => (false, rest)
    | text => (false, text)
  let (base, text) : Nat × List Char := match text with
    | '0' :: x :: c :: rest =>
      if (x = 'x' || x = 'X') && (digitOf? c).any (· < 16) then (16, c :: rest)
      else (8, '0' :: x :: c :: rest)
    | '0' :: rest => (8, '0' :: rest)
    | text => (10, text)
  let digits := text.takeWhile fun c => (digitOf? c).any (· < base)
  let value : Int := if negative then -(digitsIn base digits : Int) else digitsIn base digits
  match argument with
  | [] => (0, none)
  | '\'' :: c :: _ | '"' :: c :: _ => (c.toNat, none)
  | _ =>
    if digits.isEmpty then (0, some (.noNumber argument))
    else if value < -(Nat.pow 2 63 : Int) then (-(Nat.pow 2 63 : Int), some (.outOfRange argument))
    else if Nat.pow 2 63 - 1 < value then (Nat.pow 2 63 - 1, some (.outOfRange argument))
    else (value, if digits.length < text.length then some (.textBehind argument) else none)

/-- A floating-point number that an argument writes, and what is wrong with it. -/
def floatOf (argument : List Char) : (Bool × Magnitude) × Option PrintComplaint :=
  let isBlank (c : Char) : Bool := c = ' ' || ('\t' ≤ c && c ≤ '\r')
  let start := argument.dropWhile isBlank
  let (isNegative, text) := match start with
    | '-' :: rest => (true, rest)
    | '+' :: rest => (false, rest)
    | text => (false, text)
  let complaint (rest : List Char) : Option PrintComplaint :=
    if rest.isEmpty then none else some (.textBehind argument)
  match argument with
  | [] => ((false, .finite .zero), none)
  | '\'' :: c :: _ | '"' :: c :: _ =>
    ((false, .finite (.scaled c.toNat 10 (by decide) 0)), none)
  | _ =>
    match String.ofList (text.map Char.toLower) with
    | "inf" | "infinity" => ((isNegative, .infinite), none)
    | "nan" => ((isNegative, .undefined), none)
    | _ =>
      match text with
      | '0' :: 'x' :: c :: rest | '0' :: 'X' :: c :: rest =>
        let digits := (c :: rest).takeWhile fun c => (digitOf? c).any (· < 16)
        ((isNegative, .finite (.scaled (digitsIn 16 digits) 10 (by decide) 0)),
          complaint ((c :: rest).drop digits.length))
      | _ => match leadingDecimal? start with
        | some n =>
          (floatParts (floatOfDecimal n.isNegative n.digits n.exponent), complaint n.rest)
        | none => ((false, .finite .zero), some (.noNumber argument))

/-- Takes the next argument; the empty text if there is none. -/
def Printout.next (printout : Printout) : List Char × Printout :=
  match printout.arguments with
  | [] => ([], printout)
  | argument :: arguments => (argument, { printout with arguments })

/-- Prints a text. -/
def Printout.add (printout : Printout) (text : List Char) : Printout :=
  { printout with text := printout.text ++ text }

/-- Notes what is wrong. -/
def Printout.complain (printout : Printout) (complaint : Option PrintComplaint) : Printout :=
  { printout with complaints := printout.complaints ++ complaint.toList }

/-- Reads a number of a conversion, which may be the next argument. -/
def conversionNumber (format : List Char) (printout : Printout) :
    Option Int × List Char × Printout :=
  match format with
  | '*' :: rest =>
    let (argument, printout) := printout.next
    let (value, complaint) := numberOf argument
    (some value, rest, printout.complain complaint)
  | format =>
    let digits := format.takeWhile Char.isDigit
    (if digits.isEmpty then none else some (digitsIn 10 digits), format.dropWhile Char.isDigit,
      printout)

/-- Prints the next argument in the way that a letter asks for; none if no way has that letter. The
letter `q` asks for a quoted word where there are such. -/
def convert (arguments : EscapeRules) (quotes : Bool) (style : NumberStyle) (letter : Char)
    (printout : Printout) : Option Printout :=
  let (argument, next) := printout.next
  let cut (text : List Char) : List Char :=
    match style.precision with
    | some count => text.take count
    | none => text
  let number (base : Nat) (upper signed : Bool) : Printout :=
    let (value, complaint) := numberOf argument
    (next.add (style.renderInt base upper signed value)).complain complaint
  match letter with
  | 's' => some (next.add (style.pad false [] (cut argument)))
  | 'c' => some (next.add (style.pad false []
      (if argument.isEmpty then ['\x00'] else argument.take 1)))
  | 'b' =>
    let (text, stopped) := unescaped arguments argument
    some { next.add (style.pad false [] (cut text)) with stopped }
  | 'q' =>
      if quotes then some (next.add (style.pad false [] (Text.quoteWord false argument))) else none
  | 'd' | 'i' => some (number 10 false true)
  | 'u' => some (number 10 false false)
  | 'o' => some (number 8 false false)
  | 'x' => some (number 16 false false)
  | 'X' => some (number 16 true false)
  | 'e' | 'E' | 'f' | 'F' | 'g' | 'G' =>
    let ((isNegative, value), complaint) := floatOf argument
    some ((next.add (style.render letter isNegative value)).complain complaint)
  | _ => none

/-- Prints a format once. Conversions may have letters for the size of numbers if that is allowed,
and words may be quoted then. -/
def printOnce (format arguments : EscapeRules) (allowsSizes : Bool) :
    Nat → List Char → Printout → Printout
  | 0, _, printout => printout
  | _, [], printout => printout
  | fuel + 1, c :: rest, printout =>
    if printout.stopped then printout
    else if c = '\\' then
      match escapeAt format rest with
      | .byte c rest => printOnce format arguments allowsSizes fuel rest (printout.add [c])
      | .stop => { printout with stopped := true }
      | .unknown => printOnce format arguments allowsSizes fuel rest (printout.add [c])
    else if c = '%' then
      match rest with
      | '%' :: rest => printOnce format arguments allowsSizes fuel rest (printout.add ['%'])
      | rest =>
        let start := rest
        let isFlag (c : Char) : Bool := c = '#' || c = '-' || c = '+' || c = ' ' || c = '0'
        let flags := rest.takeWhile isFlag
        let (width, rest, printout) := conversionNumber (rest.dropWhile isFlag) printout
        let (precision, rest, printout) := match rest with
          | '.' :: rest =>
            let (precision, rest, printout) := conversionNumber rest printout
            (some (precision.getD 0), rest, printout)
          | rest => (none, rest, printout)
        let behind := rest.dropWhile fun c => allowsSizes && "hlLjtz".toList.contains c
        let style : NumberStyle := {
          flags := if width.any (· < 0) then '-' :: flags else flags
          width := (width.getD 0).natAbs
          precision := precision.bind fun n => if n < 0 then none else some n.toNat }
        match behind with
        | [] => { printout.complain (some .missingLetter) with stopped := true }
        | letter :: behind =>
          match convert arguments allowsSizes style letter printout with
          | some printout => printOnce format arguments allowsSizes fuel behind printout
          | none =>
            let text := '%' :: start.take (start.length - behind.length)
            { printout.complain (some (.unknownDirective text)) with stopped := true }
    else printOnce format arguments allowsSizes fuel rest (printout.add [c])

/-- Prints a format until all arguments are used. A format that uses none is printed once. -/
def printAll (format arguments : EscapeRules) (allowsSizes : Bool) (text : List Char) :
    Nat → Printout → Printout
  | 0, printout => printout
  | fuel + 1, printout =>
    let next := printOnce format arguments allowsSizes (text.length + 1) text printout
    if next.stopped || next.arguments.isEmpty then next
    else if next.arguments.length = printout.arguments.length then
      next.complain (next.arguments.head?.map PrintComplaint.unused)
    else printAll format arguments allowsSizes text fuel next

/-- What `printf` of the shell prints. -/
def shellPrintf (text : List Char) (values : List (List Char)) : Printout :=
  printAll .shellFormat .shellArgument false text (values.length + 1) { arguments := values }

/-- What `printf` of the system prints. -/
def systemPrintf (text : List Char) (values : List (List Char)) : Printout :=
  printAll .systemFormat .systemArgument true text (values.length + 1) { arguments := values }

end TemplateInspector.Shell
