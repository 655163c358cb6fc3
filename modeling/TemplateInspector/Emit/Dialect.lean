import TemplateInspector.Source.Unit
import TemplateInspector.Text.Blank
import TemplateInspector.Text.Casing
import TemplateInspector.Text.Line
import TemplateInspector.Text.Quoted

/-!
# The dialects of the built-in emitters

A dialect says how the parts of a unit are written in one language: names and imports, comments, and
the lines of a statement.
-/

namespace TemplateInspector

/-- A language with a built-in emitter. -/
inductive Dialect
  | csharp
  | python
  | rust
  | typescript
  deriving DecidableEq, Repr

namespace Dialect

/-- All dialects. -/
def all : List Dialect := [csharp, python, rust, typescript]

/-- The identifier of the language of a dialect. -/
def languageId : Dialect → String
  | csharp => "csharp"
  | python => "python"
  | rust => "rust"
  | typescript => "typescript"

/-- The dialect of the language with an identifier. -/
def ofLanguageId? (id : String) : Option Dialect :=
  all.find? fun dialect => dialect.languageId = id

/-- The written form of the name of a type. -/
def typeName (name : String) : String :=
  Text.upperCamelCase name

/-- The written form of the name of a method. -/
def methodName : Dialect → String → String
  | csharp, name => Text.upperCamelCase name
  | python, name | rust, name => Text.snakeCase name
  | typescript, name => Text.lowerCamelCase name

/-- The line that imports a namespace or module. -/
def importLine : Dialect → String → String
  | csharp, name => "using " ++ name ++ ";"
  | python, name => "import " ++ Text.snakeCase name
  | rust, name => "use " ++ Text.snakeCase name ++ ";"
  | typescript, name => "import \"" ++ Text.escape name ++ "\";"

/-- What a comment line begins with. -/
def commentMark : Dialect → String
  | python => "# "
  | _ => "// "

/-- A comment line. -/
def comment (dialect : Dialect) (text : String) : String :=
  dialect.commentMark ++ text

/-- The line that writes literal text. -/
def literalLine (dialect : Dialect) (text : String) : String :=
  match dialect with
  | csharp => "WriteLiteral(\"" ++ Text.escape text ++ "\");"
  | python => "self.write_literal(\"" ++ Text.escape text ++ "\")"
  | rust => "self.write_literal(\"" ++ Text.escape text ++ "\");"
  | typescript => "this.writeLiteral(\"" ++ Text.escape text ++ "\");"

/-- The line that writes the value of an expression. -/
def expressionLine (dialect : Dialect) (expression : String) : String :=
  match dialect with
  | csharp => "Write(" ++ expression ++ ");"
  | python => "self.write(" ++ expression ++ ")"
  | rust => "self.write(&(" ++ expression ++ "));"
  | typescript => "this.write(" ++ expression ++ ");"

/-- The line that maps what follows to a line of the template. -/
def pragmaLine (dialect : Dialect) (line : Nat) : String :=
  match dialect with
  | csharp => "#line " ++ toString line
  | _ => dialect.comment ("line " ++ toString line)

/-- The lines of a statement, without indentation. -/
def statementLines (dialect : Dialect) : Statement → List String
  | .writeLiteral text => [dialect.literalLine text]
  | .writeExpression expression => [dialect.expressionLine (Text.trim expression)]
  | .code text => ((Text.lines text).map Text.trimEnd).filter fun line => !Text.isBlankText line
  | .comment text => (Text.lines text).map fun line => dialect.comment (Text.trim line)
  | .linePragma line => [dialect.pragmaLine line]

/-- The line that stands for an empty body, in a language that has no empty bodies. -/
def placeholder : Dialect → List String
  | python => ["pass"]
  | _ => []

/-- The lines of a method body, without indentation. -/
def bodyLines (dialect : Dialect) (statements : List Statement) : List String :=
  let lines := statements.flatMap dialect.statementLines
  if lines.isEmpty then dialect.placeholder else lines

end Dialect

end TemplateInspector
