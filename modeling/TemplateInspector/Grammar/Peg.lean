/-!
# Parsing expression grammars

A grammar gives one expression per rule. Choice is ordered, repetition takes as much as it can, and
neither is ever reconsidered, so an expression matches one beginning of a text or none. A rule is
*spaced* or *compact*: in spaced rules the blanks of the grammar may stand between the parts of a
sequence and between repetitions. A rule that says neither is as the rule that refers to it.

Matching yields the nodes of the rules that are marked as kept, each with the text it matched.
-/

namespace TemplateInspector.Grammar

/-- A parsing expression over rules of type `R`. -/
inductive Peg (R : Type) where
  /-- Any one character. -/
  | any
  /-- One character of a class. -/
  | char (test : Char → Bool)
  /-- The given characters. -/
  | text (chars : List Char)
  /-- What a rule matches. -/
  | rule (name : R)
  /-- One expression and then another. -/
  | seq (first second : Peg R)
  /-- The first of two expressions that matches. -/
  | alt (first second : Peg R)
  /-- An expression as often as it matches. -/
  | many (body : Peg R)
  /-- An expression once if it matches. -/
  | maybe (body : Peg R)
  /-- Nothing, where an expression does not match. -/
  | absent (body : Peg R)
  /-- Nothing, at the end of the text. -/
  | finish

namespace Peg

variable {R : Type}

/-- A literal text. -/
def lit (s : String) : Peg R := .text s.toList

/-- An expression at least once. -/
def some (body : Peg R) : Peg R := .seq body (.many body)

/-- The expressions of a list, one after another. -/
def all : List (Peg R) → Peg R
  | [] => .text []
  | [e] => e
  | e :: others => .seq e (all others)

/-- The first expression of a list that matches. -/
def one : List (Peg R) → Peg R
  | [] => .absent (.text [])
  | [e] => e
  | e :: others => .alt e (one others)

end Peg

/-- Whether blanks may stand between the parts of a rule. -/
inductive Spacing
  /-- As in the rule that refers to it. -/
  | inherited
  /-- No blanks. -/
  | compact
  /-- Blanks anywhere. -/
  | spaced
  deriving DecidableEq, Repr

/-- What a rule of a grammar says. -/
structure Production (R : Type) where
  /-- Whether blanks may stand between its parts. -/
  spacing : Spacing
  /-- Whether its matches become nodes of the tree. -/
  kept : Bool
  /-- What it matches. -/
  body : Peg R

/-- The rules of a grammar, and the class of blanks that spaced rules allow. -/
structure RuleBook (R : Type) where
  /-- What each rule says. -/
  production : R → Production R
  /-- The characters that may stand between the parts of a spaced rule. -/
  isBlank : Char → Bool

/-- A node of the tree of a match. -/
inductive Node (R : Type) where
  /-- A match of a kept rule, with its text and the kept matches inside it. -/
  | node (rule : R) (text : List Char) (children : List (Node R))

namespace Node

variable {R : Type}

/-- The rule that a node matched. -/
def rule : Node R → R
  | .node rule _ _ => rule

/-- The text that a node matched. -/
def text : Node R → List Char
  | .node _ text _ => text

/-- The nodes inside a node. -/
def children : Node R → List (Node R)
  | .node _ _ children => children

end Node

/-- A match: the kept nodes and the rest of the text. -/
abbrev Match (R : Type) := List (Node R) × List Char

namespace RuleBook

variable {R : Type} (g : RuleBook R)

/-- The text after the blanks that may stand here. -/
def skip (spaced : Bool) (input : List Char) : List Char :=
  if spaced then input.dropWhile g.isBlank else input

mutual

/-- Matches an expression at the beginning of a text. `fuel` bounds the depth of the search. -/
def run : Nat → Bool → Peg R → List Char → Option (Match R)
  | 0, _, _, _ => none
  | fuel + 1, spaced, e, input =>
    match e with
    | .any => input.head?.map fun _ => ([], input.tail)
    | .char test => if input.head?.any test then some ([], input.tail) else none
    | .text chars => if chars.isPrefixOf input then some ([], input.drop chars.length) else none
    | .rule name =>
      let production := g.production name
      let spaced := match production.spacing with
        | .inherited => spaced
        | .compact => false
        | .spaced => true
      match run fuel spaced production.body input with
      | none => none
      | some (nodes, rest) =>
        if production.kept then
          some ([.node name (input.take (input.length - rest.length)) nodes], rest)
        else some (nodes, rest)
    | .seq first second =>
      match run fuel spaced first input with
      | none => none
      | some (nodes, rest) =>
        match run fuel spaced second (g.skip spaced rest) with
        | none => none
        | some (more, rest) => some (nodes ++ more, rest)
    | .alt first second =>
      match run fuel spaced first input with
      | none => run fuel spaced second input
      | found => found
    | .many body =>
      match run fuel spaced body input with
      | none => some ([], input)
      | some (nodes, rest) => repeated fuel spaced body nodes.reverse rest
    | .maybe body =>
      match run fuel spaced body input with
      | none => some ([], input)
      | found => found
    | .absent body =>
      match run fuel spaced body input with
      | none => some ([], input)
      | some _ => none
    | .finish => if input.isEmpty then some ([], []) else none

/-- Goes on with a repetition that has matched at least once. `nodes` are the nodes so far, last
first. -/
def repeated : Nat → Bool → Peg R → List (Node R) → List Char → Option (Match R)
  | 0, _, _, _, _ => none
  | fuel + 1, spaced, body, nodes, input =>
    match run fuel spaced body (g.skip spaced input) with
    | none => some (nodes.reverse, input)
    | some (more, rest) => repeated fuel spaced body (more.reverse ++ nodes) rest

end

/-- Matches a rule at the beginning of a text. Between two steps that take a character, the search
goes through each rule at most once, so a multiple of the length of the text bounds its depth. -/
def matchRule (name : R) (input : List Char) : Option (Match R) :=
  g.run (1024 * (input.length + 4)) false (.rule name) input

end RuleBook

end TemplateInspector.Grammar
