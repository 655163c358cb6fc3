import TemplateInspector.Engine.Basic
import TemplateInspector.Text.Line

/-!
# The engine for literal templates

The whole template is output: one method writes it in one statement.
-/

namespace TemplateInspector.Literal

/-- The identifier, name and languages of the engine. -/
def descriptor : EngineDescriptor where
  id := "literal"
  name := "Literal"
  languages := [⟨"rust", "Rust"⟩, ⟨"typescript", "TypeScript"⟩]

/-- The result for a template. -/
def resultOf (source : String) (designTime : Bool) : GenerationResult :=
  let pragma := if designTime then [Statement.linePragma 1] else []
  let span : Span := ⟨0, Text.byteLength source.toList⟩
  { code := { types := [{
      name := "LiteralTemplate"
      methods := [{ name := "render", statements := pragma ++ [.writeLiteral source] }] }] }
    document := ⟨.document, span, "", [⟨.markup, span, source, []⟩]⟩
    success := true }

/-- Compiles a template. An empty template is nothing to compile. -/
def generate (source : String) (host : Host) : Outcome :=
  match host.requireSupported descriptor.languages with
  | .error error => .failed error
  | .ok _ => if source.isEmpty then .declined else .result (resultOf source host.designTime)

end TemplateInspector.Literal
