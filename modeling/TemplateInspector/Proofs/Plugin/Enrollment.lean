import TemplateInspector.Plugin.Population

/-!
# Engines of plugins are registered behind all others

Nothing that becomes of a plugin affects the engines that are registered before it. So the engines
of this library come first on every machine, whatever plugins are found there.
-/

namespace TemplateInspector

/-- A failure that is reported affects no engine. -/
theorem Registry.entries_foldl_reportFailure {σ : Type} (registry : Registry σ)
    (failures : List DiscoveryError) :
    (failures.foldl reportFailure registry).entries = registry.entries := by
  induction failures generalizing registry with
  | nil => rfl
  | cons failure failures ih => exact ih (registry.reportFailure failure)

/-- The engine of a plugin is added behind the others, or left out. -/
theorem Plugin.isPrefix_entries_enroll (machine : Machine) (registry : Registry Machine)
    (plugin : Plugin) : registry.entries <+: (plugin.enroll machine registry).1.entries := by
  unfold enroll Registry.register
  split
  case h_1 =>
    cases registry.contains plugin.entry.id with
    | true => exact List.prefix_rfl
    | false => exact List.prefix_append registry.entries [plugin.entry]
  case h_2 => exact List.prefix_rfl

namespace PluginSurvey

/-- The engines of plugins are added behind the others. -/
theorem isPrefix_entries_enrollAll (machine : Machine) (plugins : List Plugin)
    (registry : Registry Machine) :
    registry.entries <+: (enrollAll machine plugins registry).1.entries := by
  induction plugins generalizing registry with
  | nil => exact List.prefix_rfl
  | cons plugin plugins ih =>
    exact (plugin.isPrefix_entries_enroll machine registry).trans
      (ih (plugin.enroll machine registry).1)

/-- Registering what a survey has found keeps the engines that were there in front. -/
theorem isPrefix_entries_populate (survey : PluginSurvey) (machine : Machine)
    (registry : Registry Machine) :
    registry.entries <+: (survey.populate machine registry).1.entries := by
  rw [← registry.entries_foldl_reportFailure survey.failures]
  exact isPrefix_entries_enrollAll ..

end PluginSurvey

/-- The engine for templates with tags is the first one on every machine. -/
theorem first?_loadRegistry (machine : Machine) (search : List String) :
    ∃ first, (loadRegistry machine search).first? = some first ∧
      first.descriptor = Tagged.descriptor := by
  have hfront := PluginSurvey.isPrefix_entries_populate (.ofSearch machine search) machine
    (Registry.registerBuiltin {} machine.check)
  obtain ⟨others, hentries⟩ := hfront
  refine ⟨Registry.builtinEntry Tagged.descriptor (Tagged.generate machine.check), ?_, rfl⟩
  rw [loadRegistry, Registry.first?, ← hentries]
  rfl

end TemplateInspector
