/-!
# Verdicts on templates

What a check of a template comes to. A template that is rejected is rejected with a text, which is
up to the check.
-/

namespace TemplateInspector.Template

/-- What the check of a template comes to. -/
inductive Verdict
  /-- The template is accepted. -/
  | accepted
  /-- The template is rejected with this text. -/
  | rejected (message : String)
  /-- The check broke down with this message. -/
  | panicked (message : String)
  deriving DecidableEq, Repr

/-- Whether a verdict is that the check broke down. -/
def Verdict.isPanic : Verdict → Bool
  | .panicked _ => true
  | .accepted | .rejected _ => false

end TemplateInspector.Template
