import TemplateInspector.Regex.Reader

/-!
# Scripts that edit lines

A script is a row of commands. Each chooses the lines for which it is carried out, by their numbers
or by patterns. Blocks and branches lead to other places of the row, which are known by their
positions.
-/

namespace TemplateInspector.Utility

/-- A pattern of a script. -/
structure LinePattern where
  /-- The regular expression. -/
  regex : Regex
  /-- Whether the case of letters does not matter. -/
  foldCase : Bool

/-- What tells a line. -/
inductive LineAddress
  /-- The line of a number. -/
  | number (n : Nat)
  /-- Every line that is a number of steps behind the first one. -/
  | step (first step : Nat)
  /-- The last line. -/
  | last
  /-- The lines that match a pattern; the one that was used last if it is missing. -/
  | pattern (pattern : Option LinePattern)

/-- Where a range of lines ends. -/
inductive RangeEnd
  /-- At a line. -/
  | address (address : LineAddress)
  /-- So many lines behind the first one. -/
  | behind (count : Nat)
  /-- At the next line after the first whose number is a multiple. -/
  | multiple (of : Nat)

/-- The lines for which a command is carried out. -/
inductive LineChoice
  | all
  | one (address : LineAddress)
  | range (first : LineAddress) (stop : RangeEnd)

/-- How the letters of a replacement are changed. -/
inductive CaseChange
  | none
  | upper
  | lower
  deriving DecidableEq

/-- A part of a replacement. -/
inductive ReplacementPart
  | text (text : List Char)
  /-- What a group has matched; the number zero is the match as a whole. -/
  | group (number : Nat)
  /-- A change of the letters that follow. -/
  | casing (change : CaseChange)
  /-- A change of the next letter. -/
  | nextCasing (change : CaseChange)

/-- A replacement of matches. -/
structure Substitution where
  /-- What is replaced. -/
  pattern : Option LinePattern
  /-- What it is replaced by. -/
  parts : List ReplacementPart
  /-- The number of the first match that is replaced. -/
  number : Nat := 1
  /-- Whether all matches from that one on are replaced. -/
  isGlobal : Bool := false
  /-- Whether the line is printed if there was a match. -/
  prints : Bool := false
  /-- The file to which the line is written if there was a match. -/
  path : Option (List Char) := none

/-- When a branch is taken. -/
inductive BranchCondition
  | always
  /-- If a match was replaced since the last line was read or the last such branch was taken. -/
  | replaced
  | notReplaced
  deriving DecidableEq

/-- What a command does. -/
inductive EditAction
  /-- The start of a block, which ends before a position. -/
  | block (behind : Nat)
  | blockEnd
  | branch (condition : BranchCondition) (label : List Char)
  | appendText (text : List Char)
  | insertText (text : List Char)
  | changeText (text : List Char)
  | delete
  /-- Deletes the first line of what is edited. -/
  | deleteFirst
  | lineNumber
  | fileName
  /-- Replaces what is edited by what is kept. -/
  | recall
  | appendKept
  | keep
  | appendToKept
  | exchange
  /-- Shows what is edited without doubt, in lines of a width. -/
  | listing (width : Option Nat)
  | next
  | appendNext
  | print
  /-- Prints the first line of what is edited. -/
  | printFirst
  /-- Ends the script; what is edited is printed before that unless it is quiet. -/
  | quit (status : Nat) (isQuiet : Bool)
  | readFile (path : List Char)
  /-- Reads the next line of a file. -/
  | readLine (path : List Char)
  | substitute (substitution : Substitution)
  | translate (source target : List Char)
  | writeFile (path : List Char)
  /-- Writes the first line of what is edited to a file. -/
  | writeFirst (path : List Char)
  | clear
  | nothing

/-- A command. -/
structure EditCommand where
  /-- The lines for which it is carried out. -/
  choice : LineChoice := .all
  /-- Whether it is carried out for all other lines instead. -/
  isInverse : Bool := false
  /-- What it does. -/
  action : EditAction

/-- A script. -/
structure EditScript where
  /-- The commands. -/
  commands : Array EditCommand
  /-- The labels with their positions. -/
  labels : List (List Char × Nat)
  /-- Whether lines are only printed by commands. -/
  isQuiet : Bool

/-- Why a text is no script. -/
inductive EditError
  | manyInversions
  | strayComma
  | relativeFirst
  | openBlock
  | strayBlockEnd
  | textBehind
  | missingText
  | chosenBlockEnd
  | chosenLabel
  | chosenComment
  | missingCommand
  | range
  | openAddress
  | openSubstitution
  | openTranslation
  | unknownFlag
  | repeatedPrint
  | repeatedGlobal
  | repeatedNumber
  | zeroNumber
  | differentLengths
  | newerVersion
  | lineZero
  | unknownCommand (letter : Char)
  | missingLabel
  | missingFile
  | flagsOfNothing
  | noPattern
  | badGroup (number : Nat)
  | regex (error : RegexError)
  deriving DecidableEq, Repr

/-- The text that reports why a text is no script. -/
def EditError.message : EditError → String
  | manyInversions => "multiple \x60!'s"
  | strayComma => "unexpected \x60,'"
  | relativeFirst => "invalid usage of +N or ~N as first address"
  | openBlock => "unmatched \x60\x7b'"
  | strayBlockEnd => "unexpected \x60\x7d'"
  | textBehind => "extra characters after command"
  | missingText => "expected \\ after \x60a', \x60c' or \x60i'"
  | chosenBlockEnd => "\x60\x7d' doesn't want any addresses"
  | chosenLabel => ": doesn't want any addresses"
  | chosenComment => "comments don't accept any addresses"
  | missingCommand => "missing command"
  | range => "command only uses one address"
  | openAddress => "unterminated address regex"
  | openSubstitution => "unterminated \x60s' command"
  | openTranslation => "unterminated \x60y' command"
  | unknownFlag => "unknown option to \x60s'"
  | repeatedPrint => "multiple \x60p' options to \x60s' command"
  | repeatedGlobal => "multiple \x60g' options to \x60s' command"
  | repeatedNumber => "multiple number options to \x60s' command"
  | zeroNumber => "number option to \x60s' command may not be zero"
  | differentLengths => "strings for \x60y' command are different lengths"
  | newerVersion => "expected newer version of sed"
  | lineZero => "invalid usage of line address 0"
  | unknownCommand letter => "unknown command: \x60" ++ String.ofList [letter] ++ "'"
  | missingLabel => "\":\" lacks a label"
  | missingFile => "missing filename in r/R/w/W commands"
  | flagsOfNothing => "cannot specify modifiers on empty regexp"
  | noPattern => "no previous regular expression"
  | badGroup number => "invalid reference \\" ++ toString number ++ " on \x60s' command's RHS"
  | regex error => error.message

end TemplateInspector.Utility
