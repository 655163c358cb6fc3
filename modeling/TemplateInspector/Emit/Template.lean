import TemplateInspector.Emit.Dialect

/-!
# The templates of the built-in emitters

Every dialect has a template for whole units. It sees a unit with the names, the imports and the
bodies as the dialect writes them. What a template writes around these stands here as it is, with
its loops and conditions, less the blanks that it strips beside its tags. The loops over types and
over methods are the levels below that of the unit.
-/

namespace TemplateInspector

/-- A method as a template sees it. -/
structure MethodView where
  /-- The written name. -/
  name : String
  /-- The lines of the body, without indentation. -/
  lines : List String

/-- A type as a template sees it. -/
structure TypeView where
  /-- The written name. -/
  name : String
  /-- The written name of the type it extends. -/
  base : Option String
  /-- The methods in order. -/
  methods : List MethodView

/-- A unit as a template sees it. -/
structure UnitView where
  /-- The namespace around the types. -/
  namespaceName : Option String
  /-- The lines of the imports. -/
  imports : List String
  /-- The types in order. -/
  types : List TypeView

namespace Dialect

/-- A method as the template of a dialect sees it. -/
def methodView (dialect : Dialect) (method : Method) : MethodView where
  name := dialect.methodName method.name
  lines := dialect.bodyLines method.statements

/-- A type as the template of a dialect sees it. -/
def typeView (dialect : Dialect) (type : TypeDecl) : TypeView where
  name := typeName type.name
  base := type.base.map typeName
  methods := type.methods.map dialect.methodView

/-- A unit as the template of a dialect sees it. -/
def unitView (dialect : Dialect) (unit : SourceUnit) : UnitView where
  namespaceName := unit.namespaceName
  imports := unit.imports.map dialect.importLine
  types := unit.types.map dialect.typeView

/-- A loop of a template. -/
def writeEach {α : Type} (items : List α) (write : α → String) : String :=
  String.join (items.map write)

/-- A part of a template that is written if there is something to write into it. -/
def writeSome (item : Option String) (write : String → String) : String :=
  item.elim "" write

/-- What the templates write for a method of a type. -/
def methodTemplate (dialect : Dialect) (hasBase : Bool) (method : MethodView) : String :=
  match dialect with
  | csharp =>
    "\n    public " ++ (if hasBase then "override " else "") ++ "void " ++ method.name ++
      "()\n    \x7b" ++ writeEach method.lines ("\n        " ++ ·) ++ "\n    \x7d"
  | python =>
    "\n    def " ++ method.name ++ "(self):" ++ writeEach method.lines ("\n        " ++ ·)
  | rust =>
    "\n    fn " ++ method.name ++ "(&mut self) \x7b" ++
      writeEach method.lines ("\n        " ++ ·) ++ "\n    \x7d"
  | typescript =>
    "\n  " ++ method.name ++ "(): void \x7b" ++ writeEach method.lines ("\n    " ++ ·) ++ "\n  \x7d"

/-- What the templates write for a type. -/
def typeTemplate (dialect : Dialect) (type : TypeView) : String :=
  match dialect with
  | csharp =>
    "\npublic class " ++ type.name ++ writeSome type.base (" : " ++ ·) ++ "\n\x7b" ++
      writeEach type.methods (csharp.methodTemplate type.base.isSome) ++ "\n\x7d\n"
  | python =>
    "\n\nclass " ++ type.name ++ writeSome type.base (fun base => "(" ++ base ++ ")") ++ ":" ++
      (if type.methods.isEmpty then "\n    pass" else "") ++
      writeEach type.methods (python.methodTemplate type.base.isSome) ++ "\n"
  | rust =>
    "\npub struct " ++ type.name ++ ";\n\nimpl " ++
      writeSome type.base (fun base => base ++ " for ") ++ type.name ++ " \x7b" ++
      writeEach type.methods (rust.methodTemplate type.base.isSome) ++ "\n\x7d\n"
  | typescript =>
    "\nexport class " ++ type.name ++ writeSome type.base (" extends " ++ ·) ++ " \x7b" ++
      writeEach type.methods (typescript.methodTemplate type.base.isSome) ++ "\n\x7d\n"

/-- What the templates write for a unit. -/
def template (dialect : Dialect) (unit : UnitView) : String :=
  match dialect with
  | csharp =>
    "// <auto-generated>\n//     This code was generated by Spyglass.\n// </auto-generated>\n" ++
      writeEach unit.imports (fun line => line ++ "\n") ++
      writeSome unit.namespaceName (fun name => "namespace " ++ name ++ ";\n") ++
      writeEach unit.types csharp.typeTemplate
  | python =>
    "# This code was generated by Spyglass.\n" ++
      writeSome unit.namespaceName (fun name => "# namespace: " ++ name ++ "\n") ++
      writeEach unit.imports (fun line => line ++ "\n") ++
      writeEach unit.types python.typeTemplate
  | rust =>
    "// This code was generated by Spyglass.\n" ++
      writeSome unit.namespaceName (fun name => "// namespace: " ++ name ++ "\n") ++
      writeEach unit.imports (fun line => line ++ "\n") ++
      writeEach unit.types rust.typeTemplate
  | typescript =>
    "// This code was generated by Spyglass.\n" ++
      writeSome unit.namespaceName (fun name => "// namespace: " ++ name ++ "\n") ++
      writeEach unit.imports (fun line => line ++ "\n") ++
      writeEach unit.types typescript.typeTemplate

/-- The text of a unit: what the template of the dialect writes. -/
def emit (dialect : Dialect) (unit : SourceUnit) : String :=
  dialect.template (dialect.unitView unit)

end Dialect

end TemplateInspector
