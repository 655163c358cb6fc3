import TemplateInspector.Engine.Codec
import TemplateInspector.Engine.Entry
import TemplateInspector.Json.Reader
import TemplateInspector.Machine
import TemplateInspector.Plugin.Discovery
import TemplateInspector.Text.Blank

/-!
# Engines of plugins

The engine of a plugin is a program, which is run in the directory of the plugin for every template.
It reads the template as its input, learns of language and mode from its environment, and prints the
result as JSON, or `null` if it declines.
-/

namespace TemplateInspector

/-- An engine that is a program. -/
structure CommandEngine where
  /-- The program. -/
  program : String
  /-- Its arguments. -/
  arguments : List String
  /-- The directory in which it runs. -/
  directory : String
  /-- The languages that it accepts. -/
  languages : List Language
  deriving DecidableEq, Repr

namespace CommandEngine

/-- The variable that names the language. -/
def languageVariable : String := "SPYGLASS_LANGUAGE"

/-- The variable that tells the mode. -/
def designTimeVariable : String := "SPYGLASS_DESIGN_TIME"

/-- Checks that the program is there, if it is named by a path. -/
def ensureAvailable (engine : CommandEngine) (machine : Machine) : Except EngineError Unit :=
  if 1 < (Path.parts engine.program).length && !machine.isFile engine.program then
    .error (.instantiation ("engine command " ++ engine.program ++ " not found"))
  else .ok ()

/-- What is started for a template. -/
def launch (engine : CommandEngine) (language : Language) (designTime : Bool) (source : String) :
    Launch where
  program := engine.program
  arguments := engine.arguments
  directory := engine.directory
  environment := [(languageVariable, language.id),
    (designTimeVariable, if designTime then "true" else "false")]
  input := source

/-- What the program has printed, read as an optional result. -/
def parseOutput (output : ByteArray) : Option (Option GenerationResult) := do
  GenerationResult.decodeOption (← Json.parseBytes output)

/-- What the end of the program comes to. -/
def outcome (engine : CommandEngine) (termination : Termination) : Outcome :=
  if !termination.status.isSuccess then
    .failed (.generation (engine.program ++ " exited with " ++ termination.status.message ++ ": " ++
      Text.trim (Text.lenient termination.errors)))
  else match parseOutput termination.output with
    | some (some result) => .result result
    | some none => .declined
    | none => .failed (.protocol "no result can be read")

/-- Compiles a template. The program is started only for a language that is accepted. -/
def generate (engine : CommandEngine) (source : String) (host : Host) (machine : Machine) :
    Outcome × Machine :=
  match host.requireSupported engine.languages with
  | .error error => (.failed error, machine)
  | .ok language =>
    match machine.run (engine.launch language host.designTime source) with
    | .error error => (.failed (.io error.message), machine)
    | .ok (termination, machine) => (engine.outcome termination, machine)

/-- The engine. -/
def toEngine (engine : CommandEngine) : Engine Machine where
  origin := .plugin
  generate := engine.generate

end CommandEngine

namespace Plugin

/-- The engine of a plugin. -/
def commandEngine (plugin : Plugin) : CommandEngine where
  program := plugin.manifest.commandPath plugin.directory
  arguments := plugin.manifest.arguments
  directory := plugin.directory
  languages := plugin.manifest.languages

/-- The entry of a plugin, whose engine is built once its program is there. -/
def entry (plugin : Plugin) : EngineEntry Machine where
  descriptor := plugin.manifest.descriptor
  build machine :=
    ((plugin.commandEngine.ensureAvailable machine).map fun _ => plugin.commandEngine.toEngine,
      machine)

end Plugin

end TemplateInspector
