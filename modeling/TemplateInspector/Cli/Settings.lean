import TemplateInspector.Controller.Settings
import TemplateInspector.Machine
import TemplateInspector.Toml.Reader

/-!
# Settings of the inspector

Where plugins are searched and what is selected when the command line does not say. The settings of
a project take precedence over those of the user. Settings that cannot be read count as none.
-/

namespace TemplateInspector

/-- The settings of the inspector. -/
structure InspectorSettings where
  /-- The directories in which plugins are searched. -/
  pluginPaths : List String := []
  /-- The engine to select. -/
  defaultEngine : Option String := none
  /-- The language to select, if the engine offers it. -/
  defaultLanguage : Option String := none
  /-- Whether the output should map back to the template. -/
  designTime : Bool := false
  /-- How long edits have to rest, in milliseconds. -/
  debounce : Nat := 100
  /-- The time between two looks at a watched template, in milliseconds. -/
  pollInterval : Nat := 250
  deriving DecidableEq, Repr

namespace InspectorSettings

/-- Takes a value for settings. -/
def decode (value : Toml) : Option InspectorSettings := do
  let [pluginPaths, defaultEngine, defaultLanguage, designTime, debounce, pollInterval] ←
    Toml.record? ["plugin-paths", "default-engine", "default-language", "design-time",
      "debounce-ms", "poll-interval-ms"] value | none
  let pluginPaths ← Toml.defaulted (Toml.items? Toml.text?) [] pluginPaths
  let defaultEngine ← Toml.optional Toml.text? defaultEngine
  let defaultLanguage ← Toml.optional Toml.text? defaultLanguage
  let designTime ← Toml.defaulted Toml.bool? false designTime
  let debounce ← Toml.defaulted Toml.word? 100 debounce
  let pollInterval ← Toml.defaulted Toml.word? 250 pollInterval
  return { pluginPaths, defaultEngine, defaultLanguage, designTime, debounce, pollInterval }

/-- Reads settings. -/
def parse (text : String) : Except TomlError InspectorSettings :=
  Toml.parseAs decode text

/-- The settings in a file; the default ones if the file cannot be read. -/
def load (machine : Machine) (path : String) : InspectorSettings :=
  match machine.readText path with
  | .error _ => {}
  | .ok text => match parse text with
    | .ok settings => settings
    | .error _ => {}

/-- The file with the settings of a project, from its directory. -/
def projectFile : String := ".spyglass.toml"

/-- The file with the settings of a user, from the home directory. -/
def userFile : String := ".config/spyglass.toml"

/-- The files in which settings are looked for, in order. -/
def candidates (machine : Machine) : List String :=
  projectFile :: (machine.home.map fun home => Path.join home userFile).toList

/-- The settings that are in force on a machine. -/
def find (machine : Machine) : InspectorSettings :=
  match (candidates machine).find? machine.isFile with
  | some path => load machine path
  | none => {}

/-- The settings of the controller. -/
def controller (settings : InspectorSettings) : ControllerSettings :=
  ⟨settings.debounce⟩

/-- The time between two looks at a watched template, which is at least a millisecond. -/
def interval (settings : InspectorSettings) : Nat :=
  max settings.pollInterval 1

end InspectorSettings

end TemplateInspector
