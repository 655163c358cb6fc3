import TemplateInspector.Utility.Editing.Script

/-!
# Reading scripts that edit lines

A script is read character by character; what is wrong with it is reported with the number of the
characters that were read. It may come in several pieces, of which each ends its last command,
except for a text that goes on in the next piece.
-/

namespace TemplateInspector.Utility

/-- How far a script has been read. -/
structure ScriptReading where
  /-- What has not been read of the current piece. -/
  rest : List Char
  /-- The number of characters that were read of it. -/
  position : Nat := 0
  /-- The number of line ends that were read of it. -/
  lines : Nat := 0
  /-- The commands, last first. -/
  commands : List EditCommand := []
  /-- The positions of the blocks that have not ended, innermost first. -/
  blocks : List Nat := []
  /-- The labels with their positions. -/
  labels : List (List Char × Nat) := []
  /-- Whether lines are only printed by commands. -/
  isQuiet : Bool := false
  /-- Whether the piece is the first one. -/
  isFirst : Bool := true
  /-- Whether the text of the last command goes on in the next piece. -/
  isPending : Bool := false
  /-- How regular expressions are written. -/
  dialect : RegexDialect

/-- What reads a part of a script. -/
abbrev ScriptM := ExceptT EditError (StateM ScriptReading)

namespace ScriptM

/-- The next character, which is not read. -/
def peek : ScriptM (Option Char) :=
  return (← get).rest.head?

/-- Reads a character. -/
def next : ScriptM (Option Char) := do
  let s ← get
  match s.rest with
  | [] => return none
  | c :: rest =>
    set { s with
      rest
      position := s.position + 1
      lines := if c = '\n' then s.lines + 1 else s.lines }
    return some c

/-- Reads characters as long as they are of some kind. -/
def takeWhile (isTaken : Char → Bool) : ScriptM (List Char) := do
  let s ← get
  let taken := s.rest.takeWhile isTaken
  set { s with
    rest := s.rest.drop taken.length
    position := s.position + taken.length
    lines := s.lines + taken.count '\n' }
  return taken

/-- Reads blanks. -/
def skipBlanks : ScriptM Unit := do
  let _ ← takeWhile fun c => c = ' ' || c = '\t'

/-- Reads blanks and the character behind them. -/
def nextVisible : ScriptM (Option Char) := do
  skipBlanks
  next

/-- Reads digits; nothing is zero. -/
def number : ScriptM Nat := do
  let digits ← takeWhile Char.isDigit
  return digits.foldl (fun n c => 10 * n + (c.toNat - '0'.toNat)) 0

/-- Reads the end of a command. -/
def endCommand : ScriptM Unit := do
  skipBlanks
  match ← peek with
  | none | some '\x7d' | some '#' => return
  | some c =>
    let _ ← next
    if c ≠ '\n' && c ≠ ';' then throw .textBehind

/-- Reads up to a delimiter, which may be hidden by a backslash; none if there is none. `fuel`
bounds the number of steps. -/
def delimited (delimiter : Char) (isPattern : Bool) : Nat → List Char →
    ScriptM (Option (List Char))
  | 0, _ => return none
  | fuel + 1, taken => do
    match ← peek with
    | none | some '\n' => return none
    | some c =>
      let _ ← next
      if c = delimiter then return some taken.reverse
      else if c = '\\' then
        match ← next with
        | none => return none
        | some d =>
          if d = 'n' && isPattern then delimited delimiter isPattern fuel ('\n' :: taken)
          else if d ≠ '\n' && (d ≠ delimiter || (!isPattern && d = '&')) then
            delimited delimiter isPattern fuel (d :: '\\' :: taken)
          else delimited delimiter isPattern fuel (d :: taken)
      else delimited delimiter isPattern fuel (c :: taken)

/-- Reads up to a delimiter. -/
def upTo (delimiter : Char) (isPattern : Bool) : ScriptM (Option (List Char)) := do
  delimited delimiter isPattern ((← get).rest.length + 1) []

end ScriptM

/-- The number that digits of a base write. -/
def numberIn (base : Nat) (digits : List Char) : Nat :=
  digits.foldl (fun n c =>
    base * n + (if c.isDigit then c.toNat - '0'.toNat else c.toLower.toNat - 'a'.toNat + 10)) 0

/-- The character that a letter behind a backslash stands for, with its number of digits. -/
def scriptEscape? : List Char → Option (Char × List Char)
  | 'a' :: rest => some ('\x07', rest)
  | 'f' :: rest => some ('\x0c', rest)
  | 'r' :: rest => some ('\r', rest)
  | 't' :: rest => some ('\t', rest)
  | 'v' :: rest => some ('\x0b', rest)
  | 'c' :: c :: rest => some (Char.ofNat (c.toUpper.toNat ^^^ 0x40), rest)
  | 'd' :: rest => numbered 10 3 Char.isDigit rest
  | 'o' :: rest => numbered 8 3 (fun c => '0' ≤ c && c ≤ '7') rest
  | 'x' :: rest =>
    numbered 16 2 (fun c => c.isDigit || ('a' ≤ c.toLower && c.toLower ≤ 'f')) rest
  | _ => none
where
  /-- The character whose number digits write. -/
  numbered (base count : Nat) (isDigit : Char → Bool) (text : List Char) :
      Option (Char × List Char) :=
    let digits := (text.take count).takeWhile isDigit
    if digits.isEmpty then none
    else some (Char.ofNat (numberIn base digits % 256), text.drop digits.length)

/-- A regular expression with characters in the place of letters behind a backslash that stand for
them. `fuel` bounds the number of steps. -/
def unescapePattern : Nat → List Char → List Char
  | 0, text => text
  | _, [] => []
  | fuel + 1, '\\' :: rest =>
    match scriptEscape? rest with
    | some (c, rest) => c :: unescapePattern fuel rest
    | none => '\\' :: rest.take 1 ++ unescapePattern fuel (rest.drop 1)
  | fuel + 1, c :: rest => c :: unescapePattern fuel rest

/-- The text of a command, in which a backslash hides the next character. `fuel` bounds the number
of steps. -/
def unescapeText : Nat → List Char → List Char
  | 0, text => text
  | _, [] => []
  | fuel + 1, '\\' :: rest =>
    match rest with
    | 'n' :: rest => '\n' :: unescapeText fuel rest
    | rest => match scriptEscape? rest with
      | some (c, rest) => c :: unescapeText fuel rest
      | none => rest.take 1 ++ unescapeText fuel (rest.drop 1)
  | fuel + 1, c :: rest => c :: unescapeText fuel rest

/-- The parts of a replacement. `fuel` bounds their number. -/
def replacementParts : Nat → List Char → List ReplacementPart
  | 0, _ | _, [] => []
  | fuel + 1, '&' :: rest => .group 0 :: replacementParts fuel rest
  | fuel + 1, '\\' :: rest =>
    match rest with
    | [] => [.text ['\\']]
    | c :: behind =>
      let others := replacementParts fuel behind
      if c.isDigit then .group (c.toNat - '0'.toNat) :: others
      else match c with
        | 'U' => .casing .upper :: others
        | 'L' => .casing .lower :: others
        | 'E' => .casing .none :: others
        | 'u' => .nextCasing .upper :: others
        | 'l' => .nextCasing .lower :: others
        | 'n' => .text ['\n'] :: others
        | c => match scriptEscape? rest with
          | some (c, rest) => .text [c] :: replacementParts fuel rest
          | none => .text [c] :: others
  | fuel + 1, c :: rest => .text [c] :: replacementParts fuel rest

/-- The characters of a translation. A backslash may hide a backslash or stand before the letter of
a line end. -/
def translationChars : List Char → List Char
  | '\\' :: '\\' :: rest => '\\' :: translationChars rest
  | '\\' :: 'n' :: rest => '\n' :: translationChars rest
  | '\\' :: 't' :: rest => '\t' :: translationChars rest
  | c :: rest => c :: translationChars rest
  | [] => []

namespace ScriptM

/-- The pattern of a text and flags, with the number of its groups; none if the text is empty. -/
def pattern (text : List Char) (foldCase multiline : Bool) :
    ScriptM (Option LinePattern × Nat) := do
  if text.isEmpty then
    if foldCase || multiline then throw .flagsOfNothing else return (none, 9)
  else
    let dialect := { (← get).dialect with multiline }
    match Regex.read dialect (unescapePattern text.length text) with
    | .ok (regex, groups) => return (some { regex, foldCase }, groups)
    | .error error => throw (.regex error)

/-- Reads the flags of a pattern that tells lines. `fuel` bounds their number. -/
def addressFlags : Nat → Bool → Bool → ScriptM (Bool × Bool)
  | 0, foldCase, multiline => return (foldCase, multiline)
  | fuel + 1, foldCase, multiline => do
    skipBlanks
    match ← peek with
    | some 'I' =>
      let _ ← next
      addressFlags fuel true multiline
    | some 'M' =>
      let _ ← next
      addressFlags fuel foldCase true
    | _ => return (foldCase, multiline)

/-- Reads what tells a line, or the end of a range; none if there is neither. -/
def address : ScriptM (Option RangeEnd) := do
  match ← peek with
  | some '/' | some '\\' =>
    let c ← next
    let delimiter ← if c = some '\\' then next else pure c
    match delimiter with
    | none => throw .openAddress
    | some delimiter =>
      match ← upTo delimiter true with
      | none => throw .openAddress
      | some text =>
        let (foldCase, multiline) ← addressFlags ((← get).rest.length + 1) false false
        let (found, _) ← pattern text foldCase multiline
        return some (.address (.pattern found))
  | some '$' =>
    let _ ← next
    return some (.address .last)
  | some '+' =>
    let _ ← next
    skipBlanks
    return some (.behind (← number))
  | some '~' =>
    let _ ← next
    skipBlanks
    return some (.multiple (← number))
  | some c =>
    if !c.isDigit then return none
    let first ← number
    skipBlanks
    if (← peek) = some '~' then
      let _ ← next
      skipBlanks
      let step ← number
      return some (.address (if step = 0 then .number first else .step first step))
    else return some (.address (.number first))
  | none => return none

/-- Reads what tells the lines for which a command is carried out. -/
def choice : ScriptM LineChoice := do
  match ← address with
  | none => return .all
  | some (.behind _) | some (.multiple _) => throw .relativeFirst
  | some (.address first) =>
    skipBlanks
    let isZero : Bool := match first with
      | .number 0 => true
      | _ => false
    if (← peek) = some ',' then
      let _ ← next
      skipBlanks
      match ← address with
      | none =>
        let _ ← next
        throw .strayComma
      | some stop =>
        skipBlanks
        let endsAtPattern : Bool := match stop with
          | .address (.pattern _) => true
          | _ => false
        if isZero && !endsAtPattern then
          let _ ← next
          throw .lineZero
        return .range first stop
    else
      if isZero then
        let _ ← next
        throw .lineZero
      return .one first

/-- Reads a label. -/
def label : ScriptM (List Char) := do
  skipBlanks
  let name ← takeWhile fun c => !c.isWhitespace && c ≠ ';' && c ≠ '\x7d'
  if (← peek).any Char.isWhitespace then let _ ← next
  return name

/-- Reads the name of a file. -/
def fileName : ScriptM (List Char) := do
  skipBlanks
  let name ← takeWhile (· ≠ '\n')
  if name.isEmpty then throw .missingFile
  return name

/-- Reads the lines of a text, which goes on behind a line end that a backslash hides. `fuel` bounds
the number of steps. -/
def textLines : Nat → List Char → ScriptM (List Char)
  | 0, taken => return taken.reverse
  | fuel + 1, taken => do
    match ← next with
    | none | some '\n' => return ('\n' :: taken).reverse
    | some '\\' =>
      match ← next with
      | none => return ('\n' :: taken).reverse
      | some c => textLines fuel (c :: '\\' :: taken)
    | some c => textLines fuel (c :: taken)

/-- Reads a text up to its last line. -/
def textBlock : ScriptM (List Char) := do
  let text ← textLines ((← get).rest.length + 1) []
  return unescapeText text.length text

/-- Reads the text of a command. -/
def text : ScriptM (List Char) := do
  skipBlanks
  match ← peek with
  | none => throw .missingText
  | some '\\' =>
    let _ ← next
    let s ← get
    let behind := s.rest.dropWhile fun c => c = ' ' || c = '\t'
    if behind.head? = some '\n' then
      skipBlanks
      let _ ← next
    if (← peek).isNone then
      modify fun s => { s with isPending := true }
      return []
    else textBlock
  | some '\n' =>
    let _ ← next
    return ['\n']
  | some _ => textBlock

/-- Reads the flags of a replacement. `fuel` bounds their number. -/
def substitutionFlags : Nat → Substitution → Option Nat → Bool → Bool →
    ScriptM (Substitution × Bool × Bool)
  | 0, s, number?, foldCase, multiline =>
      return ({ s with number := number?.getD 1 }, foldCase, multiline)
  | fuel + 1, s, number?, foldCase, multiline => do
    let done : Substitution × Bool × Bool :=
      ({ s with number := number?.getD 1 }, foldCase, multiline)
    match ← peek with
    | none | some '\x7d' | some '#' => return done
    | some c =>
      if c.isDigit then
        let n ← number
        if number?.isSome then throw .repeatedNumber
        if n = 0 then throw .zeroNumber
        substitutionFlags fuel s (some n) foldCase multiline
      else
        let _ ← next
        match c with
        | 'i' | 'I' => substitutionFlags fuel s number? true multiline
        | 'm' | 'M' => substitutionFlags fuel s number? foldCase true
        | 'e' => substitutionFlags fuel s number? foldCase multiline
        | 'p' =>
          if s.prints then throw .repeatedPrint
          substitutionFlags fuel { s with prints := true } number? foldCase multiline
        | 'g' =>
          if s.isGlobal then throw .repeatedGlobal
          substitutionFlags fuel { s with isGlobal := true } number? foldCase multiline
        | 'w' =>
          let path ← fileName
          return ({ s with number := number?.getD 1, path := some path }, foldCase, multiline)
        | '\n' | ';' => return done
        | ' ' | '\t' | '\r' => substitutionFlags fuel s number? foldCase multiline
        | _ => throw .unknownFlag

/-- The greatest number of a group in a replacement. -/
def greatestGroup (parts : List ReplacementPart) : Nat :=
  parts.foldl (fun greatest part =>
    match part with
    | .group number => max greatest number
    | _ => greatest) 0

/-- Reads a replacement. -/
def substitution : ScriptM Substitution := do
  let some delimiter ← next | throw .openSubstitution
  let some source ← upTo delimiter true | throw .openSubstitution
  let some target ← upTo delimiter false | throw .openSubstitution
  let parts := replacementParts (target.length + 1) target
  let (s, foldCase, multiline) ←
    substitutionFlags ((← get).rest.length + 1) { pattern := none, parts } none false false
  let (found, groups) ← pattern source foldCase multiline
  if groups < greatestGroup parts then throw (.badGroup (greatestGroup parts))
  return { s with pattern := found }

/-- Reads a translation of characters. -/
def translation : ScriptM EditAction := do
  let some delimiter ← next | throw .openTranslation
  let some source ← upTo delimiter false | throw .openTranslation
  let some target ← upTo delimiter false | throw .openTranslation
  let source := translationChars source
  let target := translationChars target
  if source.length ≠ target.length then throw .differentLengths
  endCommand
  return .translate source target

/-- What a letter does that has nothing behind it. -/
def plainAction? : Char → Option EditAction
  | 'd' => some .delete
  | 'D' => some .deleteFirst
  | '=' => some .lineNumber
  | 'F' => some .fileName
  | 'g' => some .recall
  | 'G' => some .appendKept
  | 'h' => some .keep
  | 'H' => some .appendToKept
  | 'x' => some .exchange
  | 'n' => some .next
  | 'N' => some .appendNext
  | 'p' => some .print
  | 'P' => some .printFirst
  | 'z' => some .clear
  | _ => none

/-- Reads the number behind a letter, if there is one. -/
def optionalNumber : ScriptM (Option Nat) := do
  skipBlanks
  if (← peek).any Char.isDigit then return some (← number) else return none

/-- Adds a command. -/
def add (command : EditCommand) : ScriptM Unit :=
  modify fun s => { s with commands := command :: s.commands }

/-- Reads a command behind what tells its lines. -/
def command (choice : LineChoice) (isInverse : Bool) : ScriptM Unit := do
  let isChosen : Bool := match choice with
    | .all => false
    | _ => true
  let isRange : Bool := match choice with
    | .range .. => true
    | _ => false
  let put (action : EditAction) : ScriptM Unit := add { choice, isInverse, action }
  match ← next with
  | none => throw .missingCommand
  | some c =>
    if let some action := plainAction? c then
      endCommand
      put action
    else match c with
      | '#' =>
        if isChosen then throw .chosenComment
        let s ← get
        let comment ← takeWhile (· ≠ '\n')
        if s.isFirst && s.position = 1 && comment = ['n'] then
          modify fun s => { s with isQuiet := true }
      | '\x7b' =>
        modify fun s => { s with blocks := s.commands.length :: s.blocks }
        put (.block 0)
      | '\x7d' =>
        match (← get).blocks with
        | [] => throw .strayBlockEnd
        | start :: blocks =>
          if isChosen then throw .chosenBlockEnd
          endCommand
          put .blockEnd
          modify fun s =>
            let index := s.commands.length - 1 - start
            { s with
              blocks
              commands := s.commands.modify index fun command =>
                { command with action := .block s.commands.length } }
      | 'a' => put (.appendText (← text))
      | 'i' => put (.insertText (← text))
      | 'c' => put (.changeText (← text))
      | ':' =>
        if isChosen then throw .chosenLabel
        let name ← label
        if name.isEmpty then throw .missingLabel
        modify fun s => { s with labels := s.labels ++ [(name, s.commands.length)] }
      | 'b' => put (.branch .always (← label))
      | 't' => put (.branch .replaced (← label))
      | 'T' => put (.branch .notReplaced (← label))
      | 'q' | 'Q' =>
        if isRange then throw .range
        let status ← optionalNumber
        endCommand
        put (.quit (status.getD 0) (c == 'Q'))
      | 'l' =>
        let width ← optionalNumber
        endCommand
        put (.listing width)
      | 'r' => put (.readFile (← fileName))
      | 'R' => put (.readLine (← fileName))
      | 'w' => put (.writeFile (← fileName))
      | 'W' => put (.writeFirst (← fileName))
      | 's' => put (.substitute (← substitution))
      | 'y' => put (← translation)
      | 'v' =>
        let version ← label
        if version.head?.any fun c => '5' ≤ c && c ≤ '9' then throw .newerVersion
      | c => throw (.unknownCommand c)

/-- Reads a command with what tells its lines. -/
def chosenCommand : ScriptM Unit := do
  let choice ← choice
  skipBlanks
  if (← peek) = some '!' then
    let _ ← next
    skipBlanks
    if (← peek) = some '!' then
      let _ ← next
      throw .manyInversions
    command choice true
  else command choice false

/-- Reads commands up to the end of a piece. `fuel` bounds their number. -/
def commands : Nat → ScriptM Unit
  | 0 => return
  | fuel + 1 => do
    let _ ← takeWhile fun c => c = ';' || c.isWhitespace
    if (← peek).isSome then
      chosenCommand
      commands fuel

/-- Reads the text that has begun in the piece before. -/
def pendingText : ScriptM Unit := do
  if (← get).isPending then
    modify fun s => { s with isPending := false }
    let text ← textBlock
    modify fun s => { s with
      commands := s.commands.modify 0 fun command =>
        { command with action := match command.action with
            | .appendText _ => .appendText text
            | .insertText _ => .insertText text
            | .changeText _ => .changeText text
            | action => action } }

/-- Reads a piece. -/
def piece (text : List Char) : ScriptM Unit := do
  modify fun s => { s with rest := text, position := 0, lines := 0 }
  pendingText
  commands (text.length + 1)
  modify fun s => { s with isFirst := false }

end ScriptM

end TemplateInspector.Utility
