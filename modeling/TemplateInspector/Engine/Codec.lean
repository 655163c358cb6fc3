import TemplateInspector.Engine.Basic
import TemplateInspector.Source.Codec
import TemplateInspector.Syntax.Codec

/-!
# Descriptions and results as JSON

The values that pass between an engine and those who use it.
-/

namespace TemplateInspector

/-- The JSON value of a language. -/
def Language.encode (language : Language) : Json :=
  .ofFields [("id", .ofText language.id), ("name", .ofText language.name)]

/-- Reads a language. -/
def Language.decode : Nat → Json → Option Language
  | 0, _ => none
  | _ + 1, json => do
    let [id, name] ← Json.record? ["id", "name"] json | none
    let id ← Json.required Json.text? id
    let name ← Json.required Json.text? name
    return { id, name }

/-- The JSON value of a descriptor. -/
def EngineDescriptor.encode (descriptor : EngineDescriptor) : Json :=
  .ofFields [("id", .ofText descriptor.id), ("name", .ofText descriptor.name),
    ("supported_languages", .ofList Language.encode descriptor.languages)]

/-- Reads a descriptor. -/
def EngineDescriptor.decode : Nat → Json → Option EngineDescriptor
  | 0, _ => none
  | levels + 1, json => do
    let [id, name, languages] ← Json.record? ["id", "name", "supported_languages"] json | none
    let id ← Json.required Json.text? id
    let name ← Json.required Json.text? name
    let languages ← Json.required (Json.items? Language.decode levels) languages
    return { id, name, languages }

/-- The JSON value of a result. -/
def GenerationResult.encode (result : GenerationResult) : Json :=
  .ofFields [("code", result.code.encode), ("document", result.document.encode),
    ("success", .bool result.success)]

/-- Reads a result. -/
def GenerationResult.decode : Nat → Json → Option GenerationResult
  | 0, _ => none
  | levels + 1, json => do
    let [code, document, success] ← Json.record? ["code", "document", "success"] json | none
    let code ← Json.required (SourceUnit.decode levels) code
    let document ← Json.required (Block.decode levels) document
    let success ← Json.required Json.bool? success
    return { code, document, success }

/-- The JSON value of an optional result. -/
def GenerationResult.encodeOption (result : Option GenerationResult) : Json :=
  .ofOption GenerationResult.encode result

/-- Reads an optional result. -/
def GenerationResult.decodeOption (json : Json) : Option (Option GenerationResult) :=
  Json.nullable (GenerationResult.decode Json.maxLevels) json

end TemplateInspector
