import TemplateInspector.Plugin.CommandEngine

/-!
# Registering plugins

The plugins of a survey are registered in the order in which they were found. A plugin with
problems, or with the identifier of an engine that is already there, is reported and left out; it
does not affect the others.
-/

namespace TemplateInspector

namespace Plugin

/-- What is wrong with a plugin. -/
def problems (machine : Machine) (plugin : Plugin) : List ManifestProblem :=
  plugin.manifest.problems machine plugin.directory

/-- Registers a plugin, or reports why it is left out; yields whether it was registered. -/
def enroll (machine : Machine) (registry : Registry Machine) (plugin : Plugin) :
    Registry Machine × Bool :=
  let report (reason : String) : Registry Machine × Bool :=
    (registry.reportFailure ⟨plugin.directory, reason⟩, false)
  match plugin.problems machine with
  | [] => match registry.register plugin.entry with
    | .ok registry => (registry, true)
    | .error error => report error.message
  | problems => report ("; ".intercalate (problems.map ManifestProblem.message))

end Plugin

namespace PluginSurvey

/-- Registers plugins in a row, and counts those that were registered. -/
def enrollAll (machine : Machine) : List Plugin → Registry Machine → Registry Machine × Nat
  | [], registry => (registry, 0)
  | plugin :: plugins, registry =>
    let (registry, added) := plugin.enroll machine registry
    let (registry, count) := enrollAll machine plugins registry
    (registry, (if added then 1 else 0) + count)

/-- Reports the failures of a survey and registers its plugins; yields how many were registered. -/
def populate (survey : PluginSurvey) (machine : Machine) (registry : Registry Machine) :
    Registry Machine × Nat :=
  enrollAll machine survey.plugins (survey.failures.foldl Registry.reportFailure registry)

end PluginSurvey

/-- The registry of a machine: the engines of this library, and then the plugins in some search
directories. -/
def loadRegistry (machine : Machine) (search : List String) : Registry Machine :=
  let builtin := Registry.registerBuiltin {} machine.check
  ((PluginSurvey.ofSearch machine search).populate machine builtin).1

end TemplateInspector
