import TemplateInspector.Template.Rules
import TemplateInspector.Template.Verdict

/-!
# Validation of templates

A template is accepted if it matches the grammar, its integers fit into 64 bits, no block and no
macro is defined twice, and it depends on no other template. The first fault decides. An array as
the argument of a test is not a fault: the check itself breaks down on it, and inside a chain of
operands that comes before a fault in an earlier operand. How a place that does not match the
grammar is described is left open.
-/

namespace TemplateInspector.Template

open Grammar

/-- The name under which a template is checked. -/
def templateName : String := "__spyglass__"

/-- Why a template is not accepted. -/
inductive Fault
  /-- It does not match the grammar, as this text describes. -/
  | malformed (description : String)
  /-- A number does not fit. -/
  | integerOutOfBounds (text : String)
  /-- A block is defined twice. -/
  | duplicateBlock (name : String)
  /-- A macro is defined twice. -/
  | duplicateMacro (name : String)
  /-- It extends itself. -/
  | extendsItself
  /-- It extends a template that is not there. -/
  | missingParent (file : String)
  /-- It imports macros from a template that is not there. -/
  | missingImport (file : String)
  deriving DecidableEq, Repr

/-- The text that reports a fault. -/
def Fault.message : Fault → String
  | .malformed description => parseFailure description
  | .integerOutOfBounds text => parseFailure ("Integer out of bounds: `" ++ text ++ "`")
  | .duplicateBlock name => parseFailure ("Block `" ++ name ++ "` is duplicated")
  | .duplicateMacro name => parseFailure ("Macro `" ++ name ++ "` is duplicated")
  | .extendsItself =>
    "Circular extend detected for template '" ++ templateName ++ "'. Inheritance chain: `[\"" ++
      templateName ++ "\"]`"
  | .missingParent file =>
    "Template '" ++ templateName ++ "' is inheriting from '" ++ file ++
      "', which doesn't exist or isn't loaded."
  | .missingImport file =>
    "Template `" ++ templateName ++ "` loads macros from `" ++ file ++
      "` which isn't present in Tera"
where
  /-- A failure to read the template at all. -/
  parseFailure (reason : String) : String :=
    "Failed to parse '" ++ templateName ++ "': " ++ reason

/-- The verdict on a template with a fault. -/
def Fault.verdict (fault : Fault) : Verdict :=
  .rejected fault.message

/-- The number that an optional hyphen and decimal digits stand for. -/
def integerValue (text : List Char) : Int :=
  let digits := text.filter Char.isDigit
  let magnitude : Nat := digits.foldl (fun n c => 10 * n + (c.toNat - '0'.toNat)) 0
  if text.head? = some '-' then -magnitude else magnitude

/-- Whether a number fits into 64 bits with sign. -/
def fitsWord (n : Int) : Bool :=
  -(Nat.pow 2 63 : Int) ≤ n && n < (Nat.pow 2 63 : Int)

/-- Whether a rule joins operands by operators. Such a chain is put together only after every
operand of it has been looked at. -/
def Rule.isChain : Rule → Bool
  | .basicExpr | .comparisonVal | .comparison | .logicExpr => true
  | _ => false

/-- The verdict over a chain, from the verdicts over its operands. -/
def chainVerdict? (operands : List Verdict) : Option Verdict :=
  match operands.find? Verdict.isPanic with
  | some panic => some panic
  | none => operands.head?

mutual

/-- What is wrong with the expressions inside a node, if anything. An array as the argument of a
test breaks the check down at once; a number that does not fit stops it at the end of the chains
that it is in. -/
def expressionVerdict? : Node Rule → Option Verdict
  | .node rule text children =>
    match rule with
    | .int =>
      if fitsWord (integerValue text) then none
      else some (Fault.integerOutOfBounds (String.ofList text)).verdict
    | .testArray => some (.panicked
        "internal error: entered unreachable code: Invalid arg type for test array_filter")
    | _ =>
      let inside := expressionVerdicts children
      if rule.isChain then chainVerdict? inside else inside.head?

/-- What is wrong with the expressions inside each of some nodes, without those that are right. -/
def expressionVerdicts : List (Node Rule) → List Verdict
  | [] => []
  | first :: others => (expressionVerdict? first).toList ++ expressionVerdicts others

end

/-- The text of the first child of a node that matches a rule. -/
def childText (rule : Rule) (node : Node Rule) : List Char :=
  (node.children.find? fun child => child.rule = rule).elim [] Node.text

mutual

/-- The names of a block and of the blocks directly or indirectly inside blocks of it. -/
def blockNames : Node Rule → List String
  | .node rule _ children =>
    if rule = .block then
      let name := (children.find? fun child => child.rule = .blockName).elim [] Node.text
      String.ofList name :: blockNamesAll children
    else []

/-- The block names of some nodes, in order. -/
def blockNamesAll : List (Node Rule) → List String
  | [] => []
  | first :: others => blockNames first ++ blockNamesAll others

end

/-- The first name of a list that stands in it before. `seen` are the names before the list. -/
def firstRepeated (seen : List String) : List String → Option String
  | [] => none
  | name :: others =>
    if seen.contains name then some name else firstRepeated (name :: seen) others

/-- The files that the nodes of a rule name, without the quotes around the names. -/
def filesOf (rule : Rule) (nodes : List (Node Rule)) : List String :=
  (nodes.filter fun node => node.rule = rule).map fun node =>
    let quoted := childText .file node
    String.ofList (quoted.filter fun c => some c ≠ quoted.head?)

/-- The first fault of a template that matches the grammar. -/
def nodesVerdict (nodes : List (Node Rule)) : Verdict :=
  match (expressionVerdicts nodes).head? with
  | some verdict => verdict
  | none =>
  match firstRepeated [] (blockNamesAll nodes) with
  | some name => (Fault.duplicateBlock name).verdict
  | none =>
  let macros := nodes.filter fun node => node.rule = .macroDefinition
  match firstRepeated [] (macros.map fun node => String.ofList (childText .macroName node)) with
  | some name => (Fault.duplicateMacro name).verdict
  | none =>
  match filesOf .extendsTag nodes with
  | parent :: _ =>
    (if parent = templateName then Fault.extendsItself else .missingParent parent).verdict
  | [] =>
  match (filesOf .importTag nodes).find? fun file => file ≠ templateName with
  | some file => (Fault.missingImport file).verdict
  | none => .accepted

/-- Checks a template. `describe` tells of a template that does not match the grammar where and why
it does not. -/
def validate (describe : List Char → String) (source : List Char) : Verdict :=
  match grammar.matchRule .template source with
  | none => (Fault.malformed (describe source)).verdict
  | some (nodes, _) => nodesVerdict nodes

end TemplateInspector.Template
