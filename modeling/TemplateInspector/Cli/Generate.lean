import TemplateInspector.Cli.Setup
import TemplateInspector.Json.Writer
import TemplateInspector.Syntax.Outline

/-!
# Compiling a template once

The template is compiled at once, whatever the debounce interval is, and what was asked for is
rendered. A template with errors is rendered too, but the command does not succeed.
-/

namespace TemplateInspector.Cli

/-- Compiles a template. -/
def compile (s : Session σ) (text : String) : Session σ :=
  (s.setText text 0).1.flush 0

/-- What of a session is printed. -/
def render (format : GenerateFormat) (s : Session σ) : String :=
  match format with
  | .code => s.controller.code
  | .tree => (s.controller.tree.map Block.outline).getD ""
  | .json => s.snapshot.encode.pretty

/-- Whether a compilation succeeded, and why not. -/
def verdict (controller : Controller) : Except CommandError Unit :=
  match controller.state with
  | .failed reason =>
    if reason = Status.errors then .error .templateErrors
    else .error (.generationFailed controller.status)
  | _ => .ok ()

end TemplateInspector.Cli
