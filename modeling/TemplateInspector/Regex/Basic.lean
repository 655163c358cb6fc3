/-!
# Regular expressions

A regular expression is matched at a position of a text. It may match there in several ways; they
are told longest first, and of two that are as long the one comes first whose earlier parts are
longer. So the first way is the leftmost and longest match, with the parts that its groups have
taken.

An expression that is repeated has to move on in every round but those that it owes.
-/

namespace TemplateInspector

/-- A set of characters by ranges. -/
structure CharSet where
  /-- Whether the set is that of the characters outside of the ranges. -/
  negated : Bool := false
  /-- The ranges. -/
  ranges : List (Char × Char)
  deriving DecidableEq, Repr

namespace CharSet

/-- Whether a character is in a set. With `foldCase` the case of letters does not matter. -/
def contains (set : CharSet) (foldCase : Bool) (c : Char) : Bool :=
  let isIn (c : Char) : Bool := set.ranges.any fun (low, high) => low ≤ c && c ≤ high
  (isIn c || foldCase && (isIn c.toLower || isIn c.toUpper)) != set.negated

/-- The set of one character. -/
def single (c : Char) : CharSet := { ranges := [(c, c)] }

/-- The set of all characters. -/
def all : CharSet := { negated := true, ranges := [] }

/-- The characters of words: letters, digits and the low line. -/
def word : CharSet := { ranges := [('a', 'z'), ('A', 'Z'), ('0', '9'), ('_', '_')] }

/-- The characters of blanks. -/
def blank : CharSet := { ranges := [('\t', '\r'), (' ', ' ')] }

/-- The set of the characters outside of a set. -/
def complement (set : CharSet) : CharSet := { set with negated := !set.negated }

end CharSet

/-- A place in a text that a regular expression may ask for. -/
inductive Anchor
  | textStart
  | textEnd
  /-- The start of the text or the place after a line feed. -/
  | lineStart
  /-- The end of the text or the place before a line feed. -/
  | lineEnd
  | wordStart
  | wordEnd
  /-- The start or the end of a word. -/
  | wordEdge
  /-- Neither the start nor the end of a word. -/
  | noWordEdge
  deriving DecidableEq, Repr

/-- A regular expression. -/
inductive Regex where
  /-- The empty text. -/
  | empty
  /-- A character of a set. -/
  | one (set : CharSet)
  /-- No text, at a place. -/
  | anchor (place : Anchor)
  /-- One expression and then another. -/
  | seq (first second : Regex)
  /-- One of two expressions. -/
  | alt (first second : Regex)
  /-- An expression as often as the bounds allow. -/
  | repeated (least : Nat) (most : Option Nat) (body : Regex)
  /-- An expression whose match is known by a number. -/
  | group (number : Nat) (body : Regex)
  /-- The text that a group has matched. -/
  | back (number : Nat)
  deriving Repr

/-- How far a match has come. -/
structure Progress where
  /-- The position in the text. -/
  position : Nat
  /-- The groups, each with the positions of its start and its end. -/
  groups : List (Nat × Nat × Nat) := []
  deriving DecidableEq, Repr

namespace Progress

/-- The groups with a new match of one of them. -/
def record (p : Progress) (number start : Nat) : Progress :=
  { p with groups :=
      (number, start, p.position) :: p.groups.filter fun entry => entry.1 ≠ number }

/-- Ways in order of their length, the longest first. Of equal ways one is kept. -/
def ordered (ways : List Progress) : List Progress :=
  (ways.mergeSort fun a b => b.position ≤ a.position).eraseReps

end Progress

namespace Anchor

/-- Whether a position of a text is a place. -/
def holds (text : Array Char) (position : Nat) (place : Anchor) : Bool :=
  let isWord (c? : Option Char) : Bool := c?.any (CharSet.word.contains false)
  let before := if position = 0 then none else text[position - 1]?
  let after := text[position]?
  match place with
  | textStart => position = 0
  | textEnd => position = text.size
  | lineStart => position = 0 || before = some '\n'
  | lineEnd => position = text.size || after = some '\n'
  | wordStart => !isWord before && isWord after
  | wordEnd => isWord before && !isWord after
  | wordEdge => isWord before != isWord after
  | noWordEdge => isWord before == isWord after

end Anchor

namespace Regex

/-- The number of characters from a position on that are in a set. -/
def runLength (text : Array Char) (foldCase : Bool) (set : CharSet) (position : Nat) :
    Nat → Nat
  | 0 => 0
  | fuel + 1 =>
    if text[position]?.any (set.contains foldCase) then
      runLength text foldCase set (position + 1) fuel + 1
    else 0

/-- The ways to go through rounds of a step. At least `least` of them are owed, and `most` are
allowed if it is given; `fuel` bounds the number of those that are not owed. -/
def rounds (step : Progress → List Progress) : Nat → Nat → Option Nat → Progress → List Progress
  | least + 1, fuel, most, p =>
    Progress.ordered ((step p).flatMap (rounds step least fuel (most.map (· - 1))))
  | 0, 0, _, p => [p]
  | 0, _, some 0, p => [p]
  | 0, fuel + 1, most, p =>
    let moved := (step p).filter fun next => p.position < next.position
    Progress.ordered (moved.flatMap (rounds step 0 fuel (most.map (· - 1)))) ++ [p]
termination_by least fuel => (least, fuel)

/-- The ways in which an expression matches from a position on. -/
def ways (text : Array Char) (foldCase : Bool) : Regex → Progress → List Progress
  | empty, p => [p]
  | one set, p =>
    if text[p.position]?.any (set.contains foldCase) then [{ p with position := p.position + 1 }]
    else []
  | anchor place, p => if place.holds text p.position then [p] else []
  | seq first second, p =>
    Progress.ordered ((ways text foldCase first p).flatMap (ways text foldCase second))
  | alt first second, p =>
    Progress.ordered (ways text foldCase first p ++ ways text foldCase second p)
  | repeated least most (one set), p =>
    let run := runLength text foldCase set p.position (most.getD (text.size - p.position))
    if run < least then []
    else (List.range (run + 1 - least)).map fun i => { p with position := p.position + run - i }
  | repeated least most body, p =>
    rounds (ways text foldCase body) least (text.size - p.position) most p
  | group number body, p =>
    (ways text foldCase body p).map fun next => next.record number p.position
  | back number, p =>
    match p.groups.lookup number with
    | none => []
    | some (start, stop) =>
      let taken := text.extract start stop
      if text.extract p.position (p.position + taken.size) = taken then
        [{ p with position := p.position + taken.size }]
      else []

/-- A match of an expression: where it starts and how far it goes. -/
structure Match where
  /-- The position of the start. -/
  start : Nat
  /-- The end and the groups. -/
  progress : Progress
  deriving DecidableEq, Repr

/-- The position of the end of a match. -/
def Match.stop (m : Match) : Nat := m.progress.position

/-- The text of a group of a match; the number zero is the match as a whole. A group that took no
part has the empty text. -/
def Match.text (m : Match) (text : Array Char) (number : Nat) : List Char :=
  if number = 0 then (text.extract m.start m.stop).toList
  else match m.progress.groups.lookup number with
    | some (start, stop) => (text.extract start stop).toList
    | none => []

/-- The match that starts first, and of those the longest, from a position on. `fuel` bounds the
number of positions that are tried. -/
def findFrom (r : Regex) (text : Array Char) (foldCase : Bool) : Nat → Nat → Option Match
  | 0, _ => none
  | fuel + 1, position =>
    match ways text foldCase r ⟨position, []⟩ with
    | best :: _ => some ⟨position, best⟩
    | [] => findFrom r text foldCase fuel (position + 1)

/-- The leftmost and longest match in a text from a position on. -/
def find? (r : Regex) (text : Array Char) (foldCase : Bool) (position : Nat) : Option Match :=
  r.findFrom text foldCase (text.size + 1 - position) position

/-- Whether an expression matches somewhere in a text. -/
def occursIn (r : Regex) (text : Array Char) (foldCase : Bool) : Bool :=
  (r.find? text foldCase 0).isSome

/-- All matches in a text that do not overlap. An empty match next to the match before does not
count. -/
def findAll (r : Regex) (text : Array Char) (foldCase : Bool) : List Match :=
  go (text.size + 1) 0 none
where
  /-- The matches from a position on, given the end of the match before. -/
  go : Nat → Nat → Option Nat → List Match
    | 0, _, _ => []
    | fuel + 1, position, last =>
      match r.find? text foldCase position with
      | none => []
      | some m =>
        if m.start = m.stop then
          let others := go fuel (m.stop + 1) last
          if last = some m.stop then others else m :: others
        else m :: go fuel m.stop (some m.stop)

end Regex

end TemplateInspector
