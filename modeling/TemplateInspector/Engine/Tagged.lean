import TemplateInspector.Engine.Basic
import TemplateInspector.Template.Segmentation
import TemplateInspector.Template.Verdict

/-!
# The engine for templates with tags

The template is segmented, and checked by a function that is given. Its tree is lowered to one
method that writes markup as it is and evaluates expressions; statements are kept as comments, and
errors are comments before all else. In design time a line pragma precedes the statement of every
block, and template comments are kept too.
-/

namespace TemplateInspector.Tagged

/-- The identifier, name and languages of the engine. -/
def descriptor : EngineDescriptor where
  id := "tera"
  name := "Tera"
  languages := [⟨"csharp", "C#"⟩, ⟨"python", "Python"⟩, ⟨"rust", "Rust"⟩,
    ⟨"typescript", "TypeScript"⟩]

/-- The statement that stands for a tag that acts. -/
def tagComment (content : String) : Statement :=
  .comment ("\x7b% " ++ content ++ " %\x7d")

/-- The statements of one block, without the blocks inside it. -/
def lowerBlock (source : List Char) (designTime : Bool) (block : Block) : List Statement :=
  let pragma :=
    if designTime && block.kind ≠ .document then
      [Statement.linePragma (Text.lineAt source block.span.start)]
    else []
  let own := match block.kind with
    | .document => []
    | .markup => [Statement.writeLiteral block.content]
    | .expression => [Statement.writeExpression block.content]
    | .statement | .region => [tagComment block.content]
    | .comment => if designTime then [Statement.comment block.content] else []
  pragma ++ own

/-- The statements of a tree: those of its blocks in preorder. -/
def lower (source : List Char) (designTime : Bool) (document : Block) : List Statement :=
  (document.preorder 0).flatMap fun (_, block) => lowerBlock source designTime block

/-- The texts of all errors of a template: those of its nesting, then the one with which the check
rejected it. -/
def errorTexts (errors : List Template.NestingError) (rejection? : Option String) : List String :=
  errors.map Template.NestingError.message ++ rejection?.toList

/-- The unit for the statements of a template. -/
def unitOf (statements : List Statement) : SourceUnit where
  namespaceName := some "Templates"
  types := [{
    name := "GeneratedTemplate"
    base := some "TemplateBase"
    methods := [{ name := "execute", statements }] }]

/-- The result for a template, given the text with which the check rejected it, if it did. -/
def resultWith (rejection? : Option String) (source : List Char) (designTime : Bool) :
    GenerationResult :=
  let segmentation := Template.segment source
  let errors := errorTexts segmentation.errors rejection?
  let statements := errors.map (fun error => Statement.comment ("error: " ++ error)) ++
    lower source designTime segmentation.document
  ⟨unitOf statements, segmentation.document, errors.isEmpty⟩

/-- Compiles a template, which `check` checks. Only blanks are nothing to compile. -/
def generate (check : List Char → Template.Verdict) (source : String) (host : Host) : Outcome :=
  match host.requireSupported descriptor.languages with
  | .error error => .failed error
  | .ok _ =>
    let chars := source.toList
    if chars.all Text.isBlank then .declined
    else match check chars with
      | .panicked message => .panicked (some message)
      | .accepted => .result (resultWith none chars host.designTime)
      | .rejected message => .result (resultWith (some message) chars host.designTime)

end TemplateInspector.Tagged
