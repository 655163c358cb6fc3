import TemplateInspector.Cli.Settings
import TemplateInspector.Cli.Transcript
import TemplateInspector.Json.Writer
import TemplateInspector.Plugin.Population

/-!
# Lists of engines and plugins

What there is to work with, and what could not be loaded.
-/

namespace TemplateInspector.Cli

/-- Prints an engine; the first one is the default. -/
def listEngine (t : Transcript) (isFirst : Bool) (engine : EngineDescriptor) : Transcript :=
  (t.success (engine.name ++ " [" ++ engine.id ++ "]" ++
      if isFirst then " (default)" else "")).label
    "    Languages" (", ".intercalate (engine.languages.map Language.display))

/-- The engines of a registry and the sources that could not be loaded, as text. -/
def listEngines (registry : Registry σ) : Transcript :=
  let t := (({} : Transcript).heading "Engines:").blank
  let t := match registry.catalog with
    | [] => t
    | first :: others => others.foldl (listEngine · false) (listEngine t true first)
  match registry.diagnostics with
  | [] => t
  | diagnostics =>
    (t.blank.warning "Skipped plugin sources:").items (diagnostics.map fun error => [error.message])

/-- The engines of a registry and the sources that could not be loaded, as a value. -/
def engineListing (registry : Registry σ) : Json :=
  .ofFields [
    ("engines", .ofList EngineDescriptor.encode registry.catalog),
    ("diagnostics", .ofList (fun error => .ofText (DiscoveryError.message error))
      registry.diagnostics)]

/-- The path of a directory, from the working directory if that encloses it. -/
def displayPath (machine : Machine) (path : String) : String :=
  (Path.below? machine.directory path).getD path

/-- Prints a plugin. -/
def listPlugin (machine : Machine) (t : Transcript) (plugin : Plugin) : Transcript :=
  let manifest := plugin.manifest
  let t := t.success
    (manifest.name ++ " [" ++ manifest.id ++ "] (v" ++ manifest.version.getD "-" ++ ")")
  let t := if manifest.description = "" then t else t.aside ("    " ++ manifest.description)
  (((t.label "    Path" (displayPath machine plugin.directory)).label "    Command"
    manifest.command).label "    Languages"
    (", ".intercalate (manifest.languages.map Language.id))).blank

/-- Says that there are no plugins, and where they were searched. -/
def listNoPlugins (settings : InspectorSettings) : Transcript :=
  let t := (({} : Transcript).warning "No plugins discovered.").blank
  if settings.pluginPaths.isEmpty then
    (t.aside "Configure plugin paths in .spyglass.toml:").blank.line
      "  plugin-paths = [\"./spyglass-plugins\", \"~/engines\"]"
  else (t.line "Searched paths:").items (settings.pluginPaths.map ([·]))

/-- The plugins of a survey and the directories that could not be loaded. -/
def listPlugins (machine : Machine) (settings : InspectorSettings) (survey : PluginSurvey) :
    Transcript :=
  let t := match survey.plugins with
    | [] => listNoPlugins settings
    | plugins =>
      plugins.foldl (listPlugin machine) (({} : Transcript).heading "Discovered plugins:").blank
  match survey.failures with
  | [] => t
  | failures => (t.warning "Skipped:").items (failures.map DiscoveryError.parts)

/-- Checks the plugin in a directory. What its manifest says is printed even if it has problems. -/
def validatePlugin (machine : Machine) (path : String) : Transcript × Except CommandError Unit :=
  let refuse (problems : List String) : Except CommandError Unit :=
    .error (.invalidPlugin path problems)
  if !machine.isDirectory path then ({}, refuse ["not a directory"])
  else match PluginManifest.load machine path with
    | .error error => ({}, refuse [error.message])
    | .ok manifest =>
      let start : Transcript := {}
      let loaded := start.success ("Plugin manifest loaded: " ++ manifest.id)
      let t := loaded.label "  Name" manifest.name
      let t := match manifest.version with
        | some version => t.label "  Version" version
        | none => t
      let t := (t.label "  Command" (manifest.commandPath path)).label "  Languages"
        (toString manifest.languages.length)
      match manifest.problems machine path with
      | [] => (t.blank.success "Validation passed.", .ok ())
      | problems => (t, refuse (problems.map ManifestProblem.message))

end TemplateInspector.Cli
