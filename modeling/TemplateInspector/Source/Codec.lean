import TemplateInspector.Json.Decode
import TemplateInspector.Source.Unit

/-!
# Source units as JSON

The encoder writes every field. The decoder takes fields in any order and fills in defaults for all
but names; a statement is an object with `kind` and `value`.
-/

namespace TemplateInspector

/-- The name of the kind of a statement. -/
def Statement.kindName : Statement → String
  | .writeLiteral _ => "write_literal"
  | .writeExpression _ => "write_expression"
  | .code _ => "code"
  | .comment _ => "comment"
  | .linePragma _ => "line_pragma"

/-- The value of a statement. -/
def Statement.value : Statement → Json
  | .writeLiteral text | .writeExpression text | .code text | .comment text => .ofText text
  | .linePragma line => .ofFields [("line", .ofNat line)]

/-- The JSON value of a statement. -/
def Statement.encode (statement : Statement) : Json :=
  .ofFields [("kind", .ofText statement.kindName), ("value", statement.value)]

/-- The JSON value of a method. -/
def Method.encode (method : Method) : Json :=
  .ofFields [("name", .ofText method.name),
    ("statements", .ofList Statement.encode method.statements)]

/-- The JSON value of a type. -/
def TypeDecl.encode (type : TypeDecl) : Json :=
  .ofFields [("name", .ofText type.name), ("base", .ofOption .ofText type.base),
    ("methods", .ofList Method.encode type.methods)]

/-- The JSON value of a unit. -/
def SourceUnit.encode (unit : SourceUnit) : Json :=
  .ofFields [("namespace", .ofOption .ofText unit.namespaceName),
    ("imports", .ofList .ofText unit.imports), ("types", .ofList TypeDecl.encode unit.types)]

/-- The statement of a kind with a value. -/
def Statement.ofParts? (levels : Nat) (kind : String) (value : Json) : Option Statement :=
  match kind with
  | "write_literal" => value.text?.map .writeLiteral
  | "write_expression" => value.text?.map .writeExpression
  | "code" => value.text?.map .code
  | "comment" => value.text?.map .comment
  | "line_pragma" =>
    match levels, value with
    | _ + 1, .object _ => do
      let [line] ← Json.record? ["line"] value | none
      (Json.required Json.word? line).map .linePragma
    | _, _ => none
  | _ => none

/-- Reads a statement. -/
def Statement.decode : Nat → Json → Option Statement
  | 0, _ => none
  | levels + 1, json => do
    let (kind, value) ← Json.tagged? "kind" "value" levels json
    Statement.ofParts? levels kind value

/-- Reads a method. -/
def Method.decode : Nat → Json → Option Method
  | 0, _ => none
  | levels + 1, json => do
    let [name, statements] ← Json.record? ["name", "statements"] json | none
    let name ← Json.required Json.text? name
    let statements ← Json.defaulted (Json.items? Statement.decode levels) [] statements
    return { name, statements }

/-- Reads a type. -/
def TypeDecl.decode : Nat → Json → Option TypeDecl
  | 0, _ => none
  | levels + 1, json => do
    let [name, base, methods] ← Json.record? ["name", "base", "methods"] json | none
    let name ← Json.required Json.text? name
    let base ← Json.defaulted (Json.nullable Json.text?) none base
    let methods ← Json.defaulted (Json.items? Method.decode levels) [] methods
    return { name, base, methods }

/-- Reads a unit. -/
def SourceUnit.decode : Nat → Json → Option SourceUnit
  | 0, _ => none
  | levels + 1, json => do
    let [namespaceName, imports, types] ← Json.record? ["namespace", "imports", "types"] json | none
    let namespaceName ← Json.defaulted (Json.nullable Json.text?) none namespaceName
    let imports ← Json.defaulted (Json.items? (fun _ => Json.text?) levels) [] imports
    let types ← Json.defaulted (Json.items? TypeDecl.decode levels) [] types
    return { namespaceName, imports, types }

end TemplateInspector
