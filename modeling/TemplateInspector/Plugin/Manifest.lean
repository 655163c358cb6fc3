import TemplateInspector.Engine.Basic
import TemplateInspector.Machine
import TemplateInspector.Text.Blank
import TemplateInspector.Toml.Reader

/-!
# Manifests of plugins

A plugin is a directory with a manifest, which describes an engine and the program that runs it. A
command with a slash or a backslash in it names a file and is looked up from the directory of the
plugin; any other names a program of the system.
-/

namespace TemplateInspector

/-- The description of a plugin. -/
structure PluginManifest where
  /-- The identifier of the engine. -/
  id : String
  /-- The name of the engine. -/
  name : String
  /-- A description of the engine. -/
  description : String := ""
  /-- The version of the engine, if one is given. -/
  version : Option String := none
  /-- The program that runs the engine. -/
  command : String
  /-- The arguments of the program. -/
  arguments : List String := []
  /-- The output languages; the first is the default. -/
  languages : List Language := []
  deriving DecidableEq, Repr

/-- Why a manifest could not be loaded. -/
inductive ManifestError
  /-- The file cannot be read. -/
  | unreadable (path : String) (error : FileError)
  /-- The file is no manifest. -/
  | malformed (path : String) (error : TomlError)
  deriving DecidableEq, Repr

/-- The text that reports why a manifest could not be loaded. -/
def ManifestError.message : ManifestError → String
  | .unreadable path error => "failed to read " ++ path ++ ": " ++ error.message
  | .malformed path error => "failed to parse " ++ path ++ ": " ++ error.message

/-- What is wrong with a manifest that could be loaded. -/
inductive ManifestProblem
  | blankId
  | blankName
  | blankCommand
  /-- The command names a file that is not there. -/
  | missingCommand (command : String)
  | noLanguages
  /-- The language of this name has a blank identifier. -/
  | blankLanguage (name : String)
  /-- The identifier of a language was used before. -/
  | repeatedLanguage (id : String)
  deriving DecidableEq, Repr

/-- The text that reports a problem of a manifest. -/
def ManifestProblem.message : ManifestProblem → String
  | .blankId => "engine.id is empty"
  | .blankName => "engine.name is empty"
  | .blankCommand => "engine.command is empty"
  | .missingCommand command => "engine.command '" ++ command ++ "' does not exist"
  | .noLanguages => "no [[languages]] declared"
  | .blankLanguage name => "language '" ++ name ++ "' has an empty id"
  | .repeatedLanguage id => "language '" ++ id ++ "' declared twice"

namespace PluginManifest

/-- The name of the file that holds a manifest. -/
def fileName : String := "spyglass-plugin.toml"

/-- Takes a value for a language. -/
def decodeLanguage (value : Toml) : Option Language := do
  let [id, name] ← Toml.record? ["id", "name"] value | none
  let id ← Toml.required Toml.text? id
  let name ← Toml.required Toml.text? name
  return { id, name }

/-- Takes a value for a manifest. -/
def decode (value : Toml) : Option PluginManifest := do
  let [engine, languages] ← Toml.record? ["engine", "languages"] value | none
  let [id, name, description, version, command, arguments] ←
    Toml.required
      (Toml.record? ["id", "name", "description", "version", "command", "args"]) engine | none
  let id ← Toml.required Toml.text? id
  let name ← Toml.required Toml.text? name
  let description ← Toml.defaulted Toml.text? "" description
  let version ← Toml.optional Toml.text? version
  let command ← Toml.required Toml.text? command
  let arguments ← Toml.defaulted (Toml.items? Toml.text?) [] arguments
  let languages ← Toml.defaulted (Toml.items? decodeLanguage) [] languages
  return { id, name, description, version, command, arguments, languages }

/-- Loads the manifest in a directory. -/
def load (machine : Machine) (directory : String) : Except ManifestError PluginManifest :=
  let path := Path.join directory fileName
  match machine.readText path with
  | .error error => .error (.unreadable path error)
  | .ok text => (Toml.parseAs decode text).mapError (.malformed path)

/-- Whether a command names a file. -/
def isPathLike (command : String) : Bool :=
  command.toList.any fun c => c = '/' || c = '\\'

/-- The program of a plugin in a directory. -/
def commandPath (manifest : PluginManifest) (directory : String) : String :=
  if Path.isAbsolute manifest.command || !isPathLike manifest.command then manifest.command
  else Path.join directory manifest.command

/-- What an engine of this plugin is described as. -/
def descriptor (manifest : PluginManifest) : EngineDescriptor :=
  ⟨manifest.id, manifest.name, manifest.languages⟩

/-- What is wrong with the command. -/
def commandProblems (machine : Machine) (directory : String) (manifest : PluginManifest) :
    List ManifestProblem :=
  if Text.isBlankText manifest.command then [.blankCommand]
  else if isPathLike manifest.command && !machine.isFile (manifest.commandPath directory) then
    [.missingCommand manifest.command]
  else []

/-- What is wrong with languages that follow others with the given identifiers. -/
def languageProblems (seen : List String) : List Language → List ManifestProblem
  | [] => []
  | language :: languages =>
    if Text.isBlankText language.id then
      .blankLanguage language.name :: languageProblems seen languages
    else if seen.contains language.id then
      .repeatedLanguage language.id :: languageProblems seen languages
    else languageProblems (language.id :: seen) languages

/-- What is wrong with a manifest in a directory. -/
def problems (machine : Machine) (directory : String) (manifest : PluginManifest) :
    List ManifestProblem :=
  (if Text.isBlankText manifest.id then [.blankId] else []) ++
  (if Text.isBlankText manifest.name then [.blankName] else []) ++
  commandProblems machine directory manifest ++
  (if manifest.languages.isEmpty then [.noLanguages] else []) ++
  languageProblems [] manifest.languages

end PluginManifest

end TemplateInspector
