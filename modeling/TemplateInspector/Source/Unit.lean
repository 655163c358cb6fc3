/-!
# Generated source units

What an engine generates, before it is written in a language: a namespace, imports, and types whose
methods are flat lists of statements.
-/

namespace TemplateInspector

/-- One statement of a generated method. -/
inductive Statement
  /-- Write template text to the output. -/
  | writeLiteral (text : String)
  /-- Evaluate an expression and write its value. -/
  | writeExpression (expression : String)
  /-- Code of the target language, kept as it is. -/
  | code (text : String)
  /-- A remark without effect. -/
  | comment (text : String)
  /-- What follows stems from this line of the template. -/
  | linePragma (line : Nat)
  deriving DecidableEq, Repr

/-- A generated method. -/
structure Method where
  /-- The name, in any casing. -/
  name : String
  /-- The body. -/
  statements : List Statement := []
  deriving DecidableEq, Repr

/-- A generated type with methods. -/
structure TypeDecl where
  /-- The name, in any casing. -/
  name : String
  /-- The type it extends. -/
  base : Option String := none
  /-- The methods in order. -/
  methods : List Method := []
  deriving DecidableEq, Repr

/-- Generated source that is not yet written in a language. -/
structure SourceUnit where
  /-- The namespace around the types. -/
  namespaceName : Option String := none
  /-- The imported namespaces or modules. -/
  imports : List String := []
  /-- The types in order. -/
  types : List TypeDecl := []
  deriving DecidableEq, Repr

/-- The bodies of all methods of a unit, in order. -/
def SourceUnit.bodies (unit : SourceUnit) : List (List Statement) :=
  unit.types.flatMap fun type => type.methods.map Method.statements

/-- The number of statements in all methods of a unit. -/
def SourceUnit.statementCount (unit : SourceUnit) : Nat :=
  (unit.bodies.map List.length).foldl (· + ·) 0

end TemplateInspector
