import TemplateInspector.Cli.Error
import TemplateInspector.Cli.Invocation
import TemplateInspector.Cli.Settings
import TemplateInspector.Controller.Session

/-!
# Setting a session up

What is asked for on the command line is selected, else what the settings name, else what comes
first. A language from the command line has to be offered by the engine; one from the settings is
passed over if it is not.
-/

namespace TemplateInspector.Cli

/-- The engine that is asked for. -/
def requestedEngine (settings : InspectorSettings) (options : SelectionOptions) : Option String :=
  options.engine <|> settings.defaultEngine

/-- Selects the engine that is asked for. -/
def selectEngine (settings : InspectorSettings) (options : SelectionOptions) (s : Session σ) :
    Except CommandError (Session σ) :=
  match requestedEngine settings options with
  | none => .ok s
  | some id => ((s.selectEngine (some id) 0).map Prod.fst).mapError .selection

/-- The languages that the selected engine offers. -/
def offered (s : Session σ) : List Language :=
  s.controller.languages s.registry.catalog

/-- Selects the language that is asked for, or that the settings name. -/
def selectLanguage (settings : InspectorSettings) (options : SelectionOptions) (s : Session σ) :
    Except CommandError (Session σ) :=
  match options.language, settings.defaultLanguage with
  | some id, _ =>
    match Language.find? id (offered s) with
    | some language => .ok (s.selectLanguage (some language) 0).1
    | none => .error (.unsupportedLanguage (s.controller.selection.engine.getD "") id
        ((offered s).map Language.id))
  | none, some id =>
    match Language.find? id (offered s) with
    | some language => .ok (s.selectLanguage (some language) 0).1
    | none => .ok s
  | none, none => .ok s

/-- Sets a session up. -/
def setUp (settings : InspectorSettings) (options : SelectionOptions) (s : Session σ) :
    Except CommandError (Session σ) := do
  let s ← selectEngine settings options s
  let s ← selectLanguage settings options s
  return (s.setDesignTime (options.designTime || settings.designTime) 0).1

/-- A session over a registry, set up. -/
def openSession (settings : InspectorSettings) (options : SelectionOptions)
    (registry : Registry σ) (world : σ) : Except CommandError (Session σ) :=
  setUp settings options (Session.initial settings.controller registry .builtin world)

end TemplateInspector.Cli
