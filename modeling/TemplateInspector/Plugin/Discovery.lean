import TemplateInspector.Plugin.Manifest
import TemplateInspector.Registry.Basic

/-!
# Finding plugins

Plugins are searched in directories. A search directory with a manifest is itself a plugin; else its
subdirectories are looked at, in the order of their names. A subdirectory is a plugin if it has a
manifest, and else if the directory `spyglass-plugin` in it has one. No search goes deeper.
-/

namespace TemplateInspector

/-- A plugin whose manifest could be loaded. -/
structure Plugin where
  /-- The path of its directory. -/
  directory : String
  /-- Its manifest. -/
  manifest : PluginManifest
  deriving DecidableEq, Repr

namespace Plugin

/-- The name of a directory in which a project keeps its plugin. -/
def nestedName : String := "spyglass-plugin"

/-- Whether a directory has a manifest. -/
def hasManifest (machine : Machine) (directory : String) : Bool :=
  machine.isFile (Path.join directory PluginManifest.fileName)

/-- The plugin that a subdirectory of a search directory is or holds. -/
def inSubdirectory? (machine : Machine) (directory : String) : Option String :=
  let nested := Path.join directory nestedName
  if hasManifest machine directory then some directory
  else if machine.isDirectory nested && hasManifest machine nested then some nested
  else none

/-- The directories of the plugins in a search directory. -/
def directoriesIn (machine : Machine) (base : String) : List String :=
  if !machine.isDirectory base then []
  else if hasManifest machine base then [base]
  else
    let subdirectories := ((machine.names base).map (Path.join base)).filter machine.isDirectory
    subdirectories.filterMap (inSubdirectory? machine)

/-- The directories of the plugins in search directories. -/
def directories (machine : Machine) (search : List String) : List String :=
  search.flatMap (directoriesIn machine)

end Plugin

/-- The plugins that were found, and the sources that could not be loaded. -/
structure PluginSurvey where
  /-- The plugins with a manifest, in the order in which they were found. -/
  plugins : List Plugin := []
  /-- The directories whose manifest could not be loaded, in the same order. -/
  failures : List DiscoveryError := []
  deriving DecidableEq, Repr

namespace PluginSurvey

/-- Takes note of a directory. -/
def visit (machine : Machine) (survey : PluginSurvey) (directory : String) : PluginSurvey :=
  match PluginManifest.load machine directory with
  | .ok manifest => { survey with plugins := survey.plugins ++ [⟨directory, manifest⟩] }
  | .error error =>
    { survey with failures := survey.failures ++ [⟨directory, error.message⟩] }

/-- The plugins in search directories. -/
def ofSearch (machine : Machine) (search : List String) : PluginSurvey :=
  (Plugin.directories machine search).foldl (visit machine) {}

end PluginSurvey

end TemplateInspector
