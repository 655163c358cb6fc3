import TemplateInspector.Emit.Dialect

/-!
# The layout of emitted source

The lines of a unit in each dialect: a heading, the namespace and the imports, and then the types
with their methods, each after an empty line. Every line of a body is indented alike, by
`Dialect.bodyIndent`.
-/

namespace TemplateInspector.Dialect

/-- The lines before everything else. -/
def heading : Dialect → List String
  | csharp => ["// <auto-generated>", "//     This code was generated by Spyglass.",
      "// </auto-generated>"]
  | python => ["# This code was generated by Spyglass."]
  | rust | typescript => ["// This code was generated by Spyglass."]

/-- The line of a namespace. -/
def namespaceLine : Dialect → String → String
  | csharp, name => "namespace " ++ name ++ ";"
  | python, name => "# namespace: " ++ name
  | rust, name | typescript, name => "// namespace: " ++ name

/-- The lines between the heading and the types. -/
def preamble (dialect : Dialect) (unit : SourceUnit) : List String :=
  let imports := unit.imports.map dialect.importLine
  let namespaceLines := unit.namespaceName.toList.map dialect.namespaceLine
  match dialect with
  | csharp => imports ++ namespaceLines
  | _ => namespaceLines ++ imports

/-- What the lines of a body begin with. -/
def bodyIndent : Dialect → String
  | typescript => "    "
  | _ => "        "

/-- The lines that begin a method. -/
def methodOpening (dialect : Dialect) (hasBase : Bool) (name : String) : List String :=
  let written := dialect.methodName name
  match dialect with
  | csharp => ["    public " ++ (if hasBase then "override " else "") ++ "void " ++ written ++ "()",
      "    \x7b"]
  | python => ["    def " ++ written ++ "(self):"]
  | rust => ["    fn " ++ written ++ "(&mut self) \x7b"]
  | typescript => ["  " ++ written ++ "(): void \x7b"]

/-- The lines that end a method. -/
def methodClosing : Dialect → List String
  | csharp | rust => ["    \x7d"]
  | python => []
  | typescript => ["  \x7d"]

/-- The lines of a method. -/
def methodLines (dialect : Dialect) (hasBase : Bool) (method : Method) : List String :=
  dialect.methodOpening hasBase method.name ++
    (dialect.bodyLines method.statements).map (dialect.bodyIndent ++ ·) ++ dialect.methodClosing

/-- The lines that begin a type. -/
def typeOpening (dialect : Dialect) (type : TypeDecl) : List String :=
  let name := typeName type.name
  match dialect, type.base.map typeName with
  | csharp, some base => ["", "public class " ++ name ++ " : " ++ base, "\x7b"]
  | csharp, none => ["", "public class " ++ name, "\x7b"]
  | python, some base => ["", "", "class " ++ name ++ "(" ++ base ++ "):"]
  | python, none => ["", "", "class " ++ name ++ ":"]
  | rust, some base => ["", "pub struct " ++ name ++ ";", "",
      "impl " ++ base ++ " for " ++ name ++ " \x7b"]
  | rust, none => ["", "pub struct " ++ name ++ ";", "", "impl " ++ name ++ " \x7b"]
  | typescript, some base => ["", "export class " ++ name ++ " extends " ++ base ++ " \x7b"]
  | typescript, none => ["", "export class " ++ name ++ " \x7b"]

/-- The lines that end a type. A language without empty types needs a placeholder in one that has
no methods. -/
def typeClosing (dialect : Dialect) (type : TypeDecl) : List String :=
  match dialect with
  | python => if type.methods.isEmpty then ["    pass"] else []
  | _ => ["\x7d"]

/-- The lines of a type. -/
def typeLines (dialect : Dialect) (type : TypeDecl) : List String :=
  dialect.typeOpening type ++
    type.methods.flatMap (dialect.methodLines type.base.isSome) ++ dialect.typeClosing type

/-- The lines of a unit. -/
def unitLines (dialect : Dialect) (unit : SourceUnit) : List String :=
  dialect.heading ++ dialect.preamble unit ++ unit.types.flatMap dialect.typeLines

end TemplateInspector.Dialect
