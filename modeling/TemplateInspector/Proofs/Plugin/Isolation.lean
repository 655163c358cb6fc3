import TemplateInspector.Proofs.Plugin.Enrollment
import TemplateInspector.Proofs.Registry.Replay

/-!
# A faulty plugin affects no other

The plugins of a survey are registered one after another, and whether one of them is left out
depends on those before it only through the identifiers that valid plugins have claimed. A plugin at
fault claims none. So a run with one such source more ends with the same engines, and with one
diagnostic more.
-/

namespace TemplateInspector

namespace Registry

variable {σ : Type}

@[simp] theorem entries_reportFailure (registry : Registry σ) (error : DiscoveryError) :
    (registry.reportFailure error).entries = registry.entries :=
  rfl

@[simp] theorem diagnostics_reportFailure (registry : Registry σ) (error : DiscoveryError) :
    (registry.reportFailure error).diagnostics = registry.diagnostics ++ [error] :=
  rfl

/-- The failures that are reported are added to the diagnostics in order. -/
theorem diagnostics_foldl_reportFailure (registry : Registry σ) (failures : List DiscoveryError) :
    (failures.foldl reportFailure registry).diagnostics = registry.diagnostics ++ failures := by
  induction failures generalizing registry with
  | nil => exact (List.append_nil _).symm
  | cons failure failures ih =>
    rw [List.foldl_cons, ih, diagnostics_reportFailure, List.append_assoc, List.singleton_append]

end Registry

/-! ## Who is registered -/

namespace Plugin

/-- Whether a plugin has no problems. -/
def isValid (machine : Machine) (plugin : Plugin) : Bool :=
  (plugin.problems machine).isEmpty

/-- Whether a plugin is registered, if some identifiers were taken from the start and some plugins
were found before it. -/
def isAdmitted (machine : Machine) (taken : List String) (before : List Plugin) (plugin : Plugin) :
    Bool :=
  plugin.isValid machine && !taken.contains plugin.manifest.id &&
    !before.any fun other => other.isValid machine && other.manifest.id == plugin.manifest.id

/-- An identifier was taken from the start, or a valid plugin has claimed it. -/
def IsClaimed (machine : Machine) (taken : List String) (before : List Plugin) (id : String) :
    Prop :=
  id ∈ taken ∨ ∃ other ∈ before, other.isValid machine = true ∧ other.manifest.id = id

/-- What is reported of a plugin that is left out. -/
def refusal (machine : Machine) (plugin : Plugin) : DiscoveryError where
  origin := plugin.directory
  reason := match plugin.problems machine with
    | [] => (RegistryError.duplicateEngine plugin.manifest.id).message
    | problems => "; ".intercalate (problems.map ManifestProblem.message)

/-- Every plugin with those that were found before it. -/
def turns (before : List Plugin) : List Plugin → List (List Plugin × Plugin)
  | [] => []
  | plugin :: plugins => (before, plugin) :: turns (before ++ [plugin]) plugins

/-- The plugins that are registered, in the order in which they were found. -/
def admitted (machine : Machine) (taken : List String) (before plugins : List Plugin) :
    List Plugin :=
  ((turns before plugins).filter fun turn => turn.2.isAdmitted machine taken turn.1).map Prod.snd

/-- The plugins that are left out, in the order in which they were found. -/
def refused (machine : Machine) (taken : List String) (before plugins : List Plugin) :
    List Plugin :=
  ((turns before plugins).filter fun turn => !turn.2.isAdmitted machine taken turn.1).map Prod.snd

theorem isValid_iff {machine : Machine} {plugin : Plugin} :
    plugin.isValid machine = true ↔ plugin.problems machine = [] :=
  List.isEmpty_iff

theorem isValid_eq_false_iff {machine : Machine} {plugin : Plugin} :
    plugin.isValid machine = false ↔ plugin.problems machine ≠ [] :=
  List.isEmpty_eq_false_iff

/-- Every plugin has one turn. -/
theorem map_snd_turns (before plugins : List Plugin) :
    (turns before plugins).map Prod.snd = plugins := by
  induction plugins generalizing before with
  | nil => rfl
  | cons plugin plugins ih => rw [turns, List.map_cons, ih]

/-- The first plugin comes first among those that are registered, if it is one of them. -/
theorem admitted_cons (machine : Machine) (taken : List String) (before : List Plugin)
    (plugin : Plugin) (plugins : List Plugin) :
    admitted machine taken before (plugin :: plugins) =
      (if plugin.isAdmitted machine taken before then [plugin] else []) ++
        admitted machine taken (before ++ [plugin]) plugins := by
  rw [admitted, turns, List.filter_cons]
  cases plugin.isAdmitted machine taken before <;> rfl

/-- The first plugin comes first among those that are left out, if it is one of them. -/
theorem refused_cons (machine : Machine) (taken : List String) (before : List Plugin)
    (plugin : Plugin) (plugins : List Plugin) :
    refused machine taken before (plugin :: plugins) =
      (if plugin.isAdmitted machine taken before then [] else [plugin]) ++
        refused machine taken (before ++ [plugin]) plugins := by
  rw [refused, turns, List.filter_cons]
  cases plugin.isAdmitted machine taken before <;> rfl

/-- Every plugin is registered or left out. -/
theorem length_admitted_add_length_refused (machine : Machine) (taken : List String)
    (before plugins : List Plugin) :
    (admitted machine taken before plugins).length + (refused machine taken before plugins).length =
      plugins.length := by
  have hturns := congrArg List.length (map_snd_turns before plugins)
  rw [List.length_map] at hturns
  rw [admitted, refused, List.length_map, List.length_map, ← hturns]
  exact (List.length_eq_length_filter_add _).symm

/-! ## One plugin after another -/

/-- A plugin with problems is reported. -/
theorem enroll_of_problems {machine : Machine} {plugin : Plugin}
    (h : plugin.problems machine ≠ []) (registry : Registry Machine) :
    plugin.enroll machine registry = (registry.reportFailure (plugin.refusal machine), false) := by
  unfold enroll refusal
  cases hproblems : plugin.problems machine with
  | nil => exact absurd hproblems h
  | cons problem problems => rfl

/-- A plugin without problems is registered, or reported if its identifier is taken. -/
theorem enroll_of_valid {machine : Machine} {plugin : Plugin}
    (h : plugin.problems machine = []) (registry : Registry Machine) :
    plugin.enroll machine registry =
      if registry.contains plugin.manifest.id then
        (registry.reportFailure (plugin.refusal machine), false)
      else ({ registry with
        entries := registry.entries ++ [plugin.entry]
        feed := registry.feed.publish (.added plugin.manifest.id) }, true) := by
  have hid : plugin.entry.id = plugin.manifest.id := rfl
  unfold enroll refusal Registry.register
  rw [h, hid]
  cases registry.contains plugin.manifest.id <;> rfl

/-- A plugin has its turn: the identifiers that are taken are those that were taken from the start
and those that valid plugins have claimed before. -/
theorem enroll_eq {machine : Machine} {taken : List String} {before : List Plugin}
    {registry : Registry Machine}
    (hids : ∀ id, id ∈ registry.ids ↔ IsClaimed machine taken before id)
    (plugin : Plugin) :
    plugin.enroll machine registry =
      if plugin.isAdmitted machine taken before then ({ registry with
        entries := registry.entries ++ [plugin.entry]
        feed := registry.feed.publish (.added plugin.manifest.id) }, true)
      else (registry.reportFailure (plugin.refusal machine), false) := by
  cases hvalid : plugin.isValid machine with
  | false =>
    have hproblems := isValid_eq_false_iff.mp hvalid
    rw [enroll_of_problems hproblems, isAdmitted, hvalid]
    rfl
  | true =>
    have hcontains : registry.contains plugin.manifest.id =
        (taken.contains plugin.manifest.id || before.any fun other =>
          other.isValid machine && other.manifest.id == plugin.manifest.id) := by
      rw [Bool.eq_iff_iff, Registry.contains_iff_mem_ids, hids]
      simp [IsClaimed]
    rw [enroll_of_valid (isValid_iff.mp hvalid), hcontains, isAdmitted, hvalid]
    cases taken.contains plugin.manifest.id <;>
      cases before.any fun other =>
        other.isValid machine && other.manifest.id == plugin.manifest.id <;> rfl

/-- After its turn a valid plugin has its identifier claimed, whether it was registered or not. -/
theorem mem_ids_enroll {machine : Machine} {taken : List String} {before : List Plugin}
    {registry : Registry Machine}
    (hids : ∀ id, id ∈ registry.ids ↔ IsClaimed machine taken before id)
    (plugin : Plugin) (id : String) :
    id ∈ (plugin.enroll machine registry).1.ids ↔
      IsClaimed machine taken (before ++ [plugin]) id := by
  have hmore : IsClaimed machine taken (before ++ [plugin]) id ↔
      IsClaimed machine taken before id ∨
        plugin.isValid machine = true ∧ plugin.manifest.id = id := by
    simp [IsClaimed, or_and_right, exists_or, or_assoc]
  rw [hmore, ← hids]
  cases hvalid : plugin.isValid machine with
  | false =>
    have hproblems := isValid_eq_false_iff.mp hvalid
    rw [enroll_of_problems hproblems]
    simp [Registry.ids, Registry.reportFailure]
  | true =>
    rw [enroll_of_valid (isValid_iff.mp hvalid)]
    cases hcontains : registry.contains plugin.manifest.id with
    | true =>
      have hmem := Registry.contains_iff_mem_ids.mp hcontains
      refine ⟨.inl, ?_⟩
      rintro (hold | ⟨-, rfl⟩)
      · exact hold
      · exact hmem
    | false => simp [Registry.ids, EngineEntry.id, entry, PluginManifest.descriptor, eq_comm]

end Plugin

namespace PluginSurvey

/-- A row of plugins has its turn: those that are admitted are added behind the engines, and each of
the others is reported. -/
theorem enrollAll_eq (machine : Machine) (taken : List String) (before plugins : List Plugin)
    (registry : Registry Machine)
    (hids : ∀ id, id ∈ registry.ids ↔ Plugin.IsClaimed machine taken before id) :
    (enrollAll machine plugins registry).1.entries =
        registry.entries ++ (Plugin.admitted machine taken before plugins).map Plugin.entry ∧
      (enrollAll machine plugins registry).1.diagnostics = registry.diagnostics ++
        (Plugin.refused machine taken before plugins).map (Plugin.refusal machine) ∧
      (enrollAll machine plugins registry).2 =
        (Plugin.admitted machine taken before plugins).length := by
  induction plugins generalizing before registry with
  | nil => exact ⟨(List.append_nil _).symm, (List.append_nil _).symm, rfl⟩
  | cons plugin plugins ih =>
    -- This plugin is now among those that were found before, whether it was registered or not.
    obtain ⟨hentries, hdiagnostics, hcount⟩ := ih (before ++ [plugin])
      (plugin.enroll machine registry).1 (plugin.mem_ids_enroll hids)
    simp only [enrollAll, hentries, hdiagnostics, hcount, Plugin.admitted_cons,
      Plugin.refused_cons]
    rw [plugin.enroll_eq hids]
    cases plugin.isAdmitted machine taken before with
    | true => simp [Nat.add_comm]
    | false => simp

end PluginSurvey

/-! ## One source more -/

namespace Registry

variable {σ : Type} {error : DiscoveryError} {registry spared : Registry σ}

/-- A registry to which one failure more was reported than to another, and which is like it
otherwise. -/
structure OneMore (error : DiscoveryError) (registry spared : Registry σ) : Prop where
  /-- The engines are the same, in the same order. -/
  entries : registry.entries = spared.entries
  /-- The diagnostics differ in this failure. -/
  diagnostics : ∃ front back, registry.diagnostics = front ++ error :: back ∧
    spared.diagnostics = front ++ back
  /-- The events differ in the report of this failure. -/
  events : ∃ front back, registry.feed.events = front ++ .discoveryFailed error :: back ∧
    spared.feed.events = front ++ back

namespace OneMore

/-- One report makes the difference. -/
theorem of_reportFailure (error : DiscoveryError) (registry : Registry σ) :
    OneMore error (registry.reportFailure error) registry where
  entries := rfl
  diagnostics := ⟨registry.diagnostics, [], rfl, (List.append_nil _).symm⟩
  events := ⟨registry.feed.events, [], rfl, (List.append_nil _).symm⟩

/-- What is reported to both keeps the difference. -/
theorem reportFailure (h : OneMore error registry spared) (other : DiscoveryError) :
    OneMore error (registry.reportFailure other) (spared.reportFailure other) where
  entries := h.entries
  diagnostics := by
    obtain ⟨front, back, hregistry, hspared⟩ := h.diagnostics
    exact ⟨front, back ++ [other], by simp [hregistry], by simp [hspared]⟩
  events := by
    obtain ⟨front, back, hregistry, hspared⟩ := h.events
    exact ⟨front, back ++ [.discoveryFailed other],
      by simp [Registry.reportFailure, Feed.publish, hregistry],
      by simp [Registry.reportFailure, Feed.publish, hspared]⟩

theorem foldl_reportFailure (h : OneMore error registry spared) (failures : List DiscoveryError) :
    OneMore error (failures.foldl Registry.reportFailure registry)
      (failures.foldl Registry.reportFailure spared) := by
  induction failures generalizing registry spared with
  | nil => exact h
  | cons failure failures ih => exact ih (h.reportFailure failure)

/-- The same engine is added to both. -/
theorem add (h : OneMore error registry spared) (entry : EngineEntry σ) (event : RegistryEvent) :
    OneMore error
      { registry with
        entries := registry.entries ++ [entry]
        feed := registry.feed.publish event }
      { spared with
        entries := spared.entries ++ [entry]
        feed := spared.feed.publish event } where
  entries := by rw [h.entries]
  diagnostics := h.diagnostics
  events := by
    obtain ⟨front, back, hregistry, hspared⟩ := h.events
    exact ⟨front, back ++ [event], by simp [Feed.publish, hregistry],
      by simp [Feed.publish, hspared]⟩

theorem contains_eq (h : OneMore error registry spared) (id : String) :
    registry.contains id = spared.contains id := by
  rw [contains, contains, get?, get?, h.entries]

end OneMore

end Registry

namespace Plugin

variable {machine other : Machine}

/-- What becomes of a plugin depends on its problems alone. -/
theorem enroll_congr {plugin : Plugin} (h : plugin.problems machine = plugin.problems other)
    (registry : Registry Machine) :
    plugin.enroll machine registry = plugin.enroll other registry := by
  rw [enroll, enroll, h]

/-- The same becomes of a plugin, whether one failure more was reported before or not. -/
theorem oneMore_enroll {plugin : Plugin}
    (hproblems : plugin.problems machine = plugin.problems other)
    {error : DiscoveryError} {registry spared : Registry Machine}
    (h : registry.OneMore error spared) :
    (plugin.enroll machine registry).2 = (plugin.enroll other spared).2 ∧
      (plugin.enroll machine registry).1.OneMore error (plugin.enroll other spared).1 := by
  rw [enroll_congr hproblems]
  by_cases hvalid : plugin.problems other = []
  · rw [enroll_of_valid hvalid, enroll_of_valid hvalid, h.contains_eq]
    cases spared.contains plugin.manifest.id with
    | true => exact ⟨rfl, h.reportFailure _⟩
    | false => exact ⟨rfl, h.add ..⟩
  · rw [enroll_of_problems hvalid, enroll_of_problems hvalid]
    exact ⟨rfl, h.reportFailure _⟩

end Plugin

namespace PluginSurvey

variable {machine other : Machine}

/-- What becomes of a row of plugins depends on their problems alone. -/
theorem enrollAll_congr {plugins : List Plugin}
    (h : ∀ plugin ∈ plugins, plugin.problems machine = plugin.problems other)
    (registry : Registry Machine) :
    enrollAll machine plugins registry = enrollAll other plugins registry := by
  induction plugins generalizing registry with
  | nil => rfl
  | cons plugin plugins ih =>
    have hrest := ih fun plugin hplugin => h plugin (List.mem_cons_of_mem _ hplugin)
    simp only [enrollAll, Plugin.enroll_congr (h plugin List.mem_cons_self), hrest]

/-- A row of plugins has its turn before the next one. -/
theorem enrollAll_append (machine : Machine) (plugins more : List Plugin)
    (registry : Registry Machine) :
    enrollAll machine (plugins ++ more) registry =
      ((enrollAll machine more (enrollAll machine plugins registry).1).1,
        (enrollAll machine plugins registry).2 +
          (enrollAll machine more (enrollAll machine plugins registry).1).2) := by
  induction plugins generalizing registry with
  | nil => simp [enrollAll]
  | cons plugin plugins ih => simp [enrollAll, ih, Nat.add_assoc]

/-- The same becomes of a row of plugins, whether one failure more was reported before or not. -/
theorem oneMore_enrollAll {plugins : List Plugin}
    (hproblems : ∀ plugin ∈ plugins, plugin.problems machine = plugin.problems other)
    {error : DiscoveryError} {registry spared : Registry Machine}
    (h : registry.OneMore error spared) :
    (enrollAll machine plugins registry).2 = (enrollAll other plugins spared).2 ∧
      (enrollAll machine plugins registry).1.OneMore error (enrollAll other plugins spared).1 := by
  induction plugins generalizing registry spared with
  | nil => exact ⟨rfl, h⟩
  | cons plugin plugins ih =>
    obtain ⟨hadded, hmore⟩ := Plugin.oneMore_enroll (hproblems plugin List.mem_cons_self) h
    obtain ⟨hcount, hrest⟩ :=
      ih (fun plugin hplugin => hproblems plugin (List.mem_cons_of_mem _ hplugin)) hmore
    simp only [enrollAll, hadded, hcount]
    exact ⟨trivial, hrest⟩

/-- A survey that has found one source more than another; it is at fault and is to be reported. -/
inductive Spoiled (machine : Machine) (error : DiscoveryError) :
    PluginSurvey → PluginSurvey → Prop
  /-- The manifest could not be loaded. -/
  | unloadable {plugins : List Plugin} {before after : List DiscoveryError} :
      Spoiled machine error ⟨plugins, before ++ error :: after⟩ ⟨plugins, before ++ after⟩
  /-- The plugin has problems. -/
  | invalid {plugin : Plugin} {before after : List Plugin} {failures : List DiscoveryError}
      (hproblems : plugin.problems machine ≠ []) (hreported : error = plugin.refusal machine) :
      Spoiled machine error ⟨before ++ plugin :: after, failures⟩ ⟨before ++ after, failures⟩

/-- A source at fault makes no difference but for the report of it, even if the survey without it
was made on another machine, as long as the problems of the other plugins are the same there. -/
theorem oneMore_populate {error : DiscoveryError} {survey spared : PluginSurvey}
    (hspoiled : Spoiled machine error survey spared)
    (hproblems : ∀ plugin ∈ spared.plugins, plugin.problems machine = plugin.problems other)
    (registry : Registry Machine) :
    (survey.populate machine registry).2 = (spared.populate other registry).2 ∧
      (survey.populate machine registry).1.OneMore error (spared.populate other registry).1 := by
  cases hspoiled with
  | @unloadable plugins before after =>
    refine oneMore_enrollAll hproblems ?_
    rw [List.foldl_append, List.foldl_append]
    exact (Registry.OneMore.of_reportFailure error _).foldl_reportFailure after
  | @invalid plugin before after failures hplugin hreported =>
    have hbefore : ∀ plugin ∈ before, plugin.problems machine = plugin.problems other :=
      fun plugin hplugin => hproblems plugin (List.mem_append_left _ hplugin)
    have hafter : ∀ plugin ∈ after, plugin.problems machine = plugin.problems other :=
      fun plugin hplugin => hproblems plugin (List.mem_append_right _ hplugin)
    simp only [populate, enrollAll_append, enrollAll_congr hbefore]
    rw [enrollAll, Plugin.enroll_of_problems hplugin, ← hreported]
    obtain ⟨hcount, hmore⟩ := oneMore_enrollAll hafter
      (Registry.OneMore.of_reportFailure error
        (enrollAll other before (failures.foldl Registry.reportFailure registry)).1)
    refine ⟨?_, hmore⟩
    simp only [hcount, Bool.false_eq_true, ite_false, Nat.zero_add]

end PluginSurvey

/-! ## One directory more -/

namespace Plugin

variable {machine other : Machine} {directory : String} {error : DiscoveryError}

/-- The plugin in a directory, if its manifest can be loaded. -/
def found? (machine : Machine) (directory : String) : Option Plugin :=
  match PluginManifest.load machine directory with
  | .ok manifest => some ⟨directory, manifest⟩
  | .error _ => none

/-- What is reported of a directory, if its manifest cannot be loaded. -/
def unloadable? (machine : Machine) (directory : String) : Option DiscoveryError :=
  match PluginManifest.load machine directory with
  | .ok _ => none
  | .error error => some ⟨directory, error.message⟩

/-- What is reported of a directory, if its manifest cannot be loaded or has problems. -/
def fault? (machine : Machine) (directory : String) : Option DiscoveryError :=
  match found? machine directory with
  | some plugin => if plugin.isValid machine then none else some (plugin.refusal machine)
  | none => unloadable? machine directory

/-- A directory holds the same on two machines: the same manifest with the same problems, or none
that can be loaded. -/
structure Alike (machine other : Machine) (directory : String) : Prop where
  found : found? machine directory = found? other directory
  unloadable : unloadable? machine directory = unloadable? other directory
  problems : ∀ plugin, found? other directory = some plugin →
    plugin.problems machine = plugin.problems other

/-- A directory is at fault if its manifest cannot be loaded or the plugin in it has problems. -/
theorem fault?_cases (h : fault? machine directory = some error) :
    (found? machine directory = none ∧ unloadable? machine directory = some error) ∨
      ∃ plugin, found? machine directory = some plugin ∧ unloadable? machine directory = none ∧
        plugin.problems machine ≠ [] ∧ error = plugin.refusal machine := by
  unfold fault? at h
  cases hfound : found? machine directory with
  | none =>
    rw [hfound] at h
    exact .inl ⟨rfl, h⟩
  | some plugin =>
    rw [hfound] at h
    have hunloadable : unloadable? machine directory = none := by
      unfold found? at hfound
      unfold unloadable?
      split at hfound <;> simp_all
    cases hvalid : plugin.isValid machine with
    | true => simp [hvalid] at h
    | false =>
      simp only [hvalid, Bool.false_eq_true, ite_false, Option.some.injEq] at h
      exact .inr ⟨plugin, rfl, hunloadable, isValid_eq_false_iff.mp hvalid, h.symm⟩

/-- A directory that is at fault is named in the report. -/
theorem origin_of_fault? (h : fault? machine directory = some error) :
    error.origin = directory := by
  rcases fault?_cases h with ⟨-, hunloadable⟩ | ⟨plugin, hfound, -, -, rfl⟩
  · unfold unloadable? at hunloadable
    split at hunloadable <;> cases hunloadable
    rfl
  · unfold found? at hfound
    split at hfound <;> cases hfound
    rfl

end Plugin

namespace PluginSurvey

/-- A visit finds a plugin or reports a manifest that cannot be loaded. -/
theorem visit_eq (machine : Machine) (survey : PluginSurvey) (directory : String) :
    visit machine survey directory =
      ⟨survey.plugins ++ (Plugin.found? machine directory).toList,
        survey.failures ++ (Plugin.unloadable? machine directory).toList⟩ := by
  unfold visit Plugin.found? Plugin.unloadable?
  cases PluginManifest.load machine directory with
  | ok manifest => simp only [Option.toList_some, Option.toList_none, List.append_nil]
  | error error => simp only [Option.toList_some, Option.toList_none, List.append_nil]

/-- A survey tells the directories whose manifest can be loaded from the others. -/
theorem foldl_visit (machine : Machine) (directories : List String) (survey : PluginSurvey) :
    directories.foldl (visit machine) survey =
      ⟨survey.plugins ++ directories.filterMap (Plugin.found? machine),
        survey.failures ++ directories.filterMap (Plugin.unloadable? machine)⟩ := by
  induction directories generalizing survey with
  | nil => simp
  | cons directory directories ih =>
    rw [List.foldl_cons, ih, visit_eq]
    simp only [List.filterMap_eq_flatMap_toList, List.flatMap_cons, List.append_assoc]

/-- One directory more that is at fault, on a machine where all others hold the same as on another
machine, spoils a survey. -/
theorem spoiled_ofSearch {machine other : Machine} {search fewer before after : List String}
    {directory : String} {error : DiscoveryError}
    (hsearch : Plugin.directories machine search = before ++ directory :: after)
    (hfewer : Plugin.directories other fewer = before ++ after)
    (hfault : Plugin.fault? machine directory = some error)
    (halike : ∀ directory ∈ before ++ after, Plugin.Alike machine other directory) :
    Spoiled machine error (ofSearch machine search) (ofSearch other fewer) := by
  have hfound : ∀ part, part ⊆ before ++ after →
      part.filterMap (Plugin.found? machine) = part.filterMap (Plugin.found? other) :=
    fun part hpart => List.filterMap_congr fun d hd => (halike d (hpart hd)).found
  have hunloadable : ∀ part, part ⊆ before ++ after →
      part.filterMap (Plugin.unloadable? machine) = part.filterMap (Plugin.unloadable? other) :=
    fun part hpart => List.filterMap_congr fun d hd => (halike d (hpart hd)).unloadable
  have hleft := List.subset_append_left before after
  have hright := List.subset_append_right before after
  rw [ofSearch, hsearch, ofSearch, hfewer, foldl_visit, foldl_visit]
  rcases Plugin.fault?_cases hfault with
    ⟨hnone, hsome⟩ | ⟨plugin, hsome, hnone, hproblems, hreported⟩
  · simp only [List.filterMap_append, List.filterMap_cons, hnone, hsome, List.nil_append,
      hfound _ hleft, hfound _ hright, hunloadable _ hleft, hunloadable _ hright]
    exact .unloadable
  · simp only [List.filterMap_append, List.filterMap_cons, hnone, hsome, List.nil_append,
      hfound _ hleft, hfound _ hright, hunloadable _ hleft, hunloadable _ hright]
    exact .invalid hproblems hreported

/-- The plugins of a survey are those in the directories that were searched. -/
theorem exists_of_mem_plugins_ofSearch {machine : Machine} {search : List String} {plugin : Plugin}
    (h : plugin ∈ (ofSearch machine search).plugins) :
    ∃ directory ∈ Plugin.directories machine search,
      Plugin.found? machine directory = some plugin := by
  rw [ofSearch, foldl_visit] at h
  exact List.mem_filterMap.mp h

/-- Registering the plugins of a survey adds those that are valid and whose identifier is free, in
order, behind the engines that were there, and reports every other source once. A source at fault
that is found besides makes no difference but for the report of it. -/
theorem populate_isolates_failures (machine : Machine) (registry : Registry Machine)
    (survey : PluginSurvey) :
    (survey.populate machine registry).1.entries = registry.entries ++
        (Plugin.admitted machine registry.ids [] survey.plugins).map Plugin.entry ∧
      (survey.populate machine registry).2 =
        (Plugin.admitted machine registry.ids [] survey.plugins).length ∧
      (survey.populate machine registry).1.diagnostics =
        registry.diagnostics ++ survey.failures ++
          (Plugin.refused machine registry.ids [] survey.plugins).map (Plugin.refusal machine) ∧
      (survey.populate machine registry).2 +
          ((survey.populate machine registry).1.diagnostics.length -
            registry.diagnostics.length) =
        survey.plugins.length + survey.failures.length ∧
      (∀ spoiled error, Spoiled machine error spoiled survey →
        (spoiled.populate machine registry).2 = (survey.populate machine registry).2 ∧
          (spoiled.populate machine registry).1.OneMore error
            (survey.populate machine registry).1) ∧
      ∀ (other : Machine) (search fewer before after : List String) (directory : String)
        (error : DiscoveryError),
        Plugin.directories machine search = before ++ directory :: after →
        Plugin.directories other fewer = before ++ after →
        (∀ directory ∈ before ++ after, Plugin.Alike machine other directory) →
        Plugin.fault? machine directory = some error →
        error.origin = directory ∧
          ((ofSearch machine search).populate machine registry).2 =
            ((ofSearch other fewer).populate other registry).2 ∧
          ((ofSearch machine search).populate machine registry).1.OneMore error
            ((ofSearch other fewer).populate other registry).1 := by
  have hids : ∀ id, id ∈ (survey.failures.foldl Registry.reportFailure registry).ids ↔
      Plugin.IsClaimed machine registry.ids [] id := fun id => by
    rw [Registry.ids, Registry.entries_foldl_reportFailure]
    simp [Plugin.IsClaimed, Registry.ids]
  obtain ⟨hentries, hdiagnostics, hcount⟩ := enrollAll_eq machine registry.ids [] survey.plugins
    (survey.failures.foldl Registry.reportFailure registry) hids
  rw [Registry.entries_foldl_reportFailure] at hentries
  rw [Registry.diagnostics_foldl_reportFailure] at hdiagnostics
  refine ⟨hentries, hcount, hdiagnostics, ?_, ?_, ?_⟩
  · have hturns := Plugin.length_admitted_add_length_refused machine registry.ids [] survey.plugins
    rw [populate, hcount, hdiagnostics]
    simp only [List.length_append, List.length_map]
    omega
  · exact fun spoiled error hspoiled => oneMore_populate hspoiled (fun _ _ => rfl) registry
  · intro other search fewer before after directory error hsearch hfewer halike hfault
    refine ⟨Plugin.origin_of_fault? hfault, ?_⟩
    refine oneMore_populate (spoiled_ofSearch hsearch hfewer hfault halike) ?_ registry
    intro plugin hplugin
    obtain ⟨place, hplace, hfound⟩ := exists_of_mem_plugins_ofSearch hplugin
    rw [hfewer] at hplace
    exact (halike place hplace).problems plugin hfound

/-- A plugin without a command has the identifier of one that is found behind it. The latter is
registered as if the former were not there. -/
theorem populate_behind_invalid :
    let manifest := fun command =>
      "[engine]\nid = \"razor\"\nname = \"Razor\"\ncommand = \"" ++ command ++ "\"\n" ++
        "[[languages]]\nid = \"csharp\"\nname = \"C#\"\n"
    let sound := [(["sound"], .directory),
      (["sound", "spyglass-plugin.toml"], .file (manifest "cat").toUTF8 false)]
    let other : Machine := { files := ⟨sound⟩ }
    let machine : Machine := { files := ⟨sound ++ [(["broken"], .directory),
      (["broken", "spyglass-plugin.toml"], .file (manifest "").toUTF8 false)]⟩ }
    let search := ["broken", "sound"]
    let builtin : Registry Machine := Registry.registerBuiltin {} machine.check
    ((ofSearch machine search).populate machine builtin).2 =
        ((ofSearch other search).populate other builtin).2 ∧
      ((ofSearch machine search).populate machine builtin).1.OneMore
        ⟨"broken", "engine.command is empty"⟩ ((ofSearch other search).populate other builtin).1 ∧
      ((ofSearch machine search).populate machine builtin).1.ids =
        ["tera", "literal", "razor"] := by
  intro manifest sound other machine search builtin
  have hproblems : ∀ plugin ∈ Plugin.found? other "sound",
      plugin.problems machine = plugin.problems other := by
    decide +kernel
  have halike : Plugin.Alike machine other "sound" :=
    ⟨by decide +kernel, by decide +kernel, hproblems⟩
  have hothers : ∀ directory ∈ [] ++ ["sound"], Plugin.Alike machine other directory :=
    fun directory hdirectory => List.mem_singleton.mp hdirectory ▸ halike
  obtain ⟨-, -, -, -, -, hmore⟩ := populate_isolates_failures machine builtin {}
  obtain ⟨-, hcount, hone⟩ := hmore other search search [] ["sound"] "broken"
    ⟨"broken", "engine.command is empty"⟩ (by decide +kernel) (by decide +kernel) hothers
    (by decide +kernel)
  have hids : ((ofSearch other search).populate other builtin).1.ids =
      ["tera", "literal", "razor"] := by decide +kernel
  exact ⟨hcount, hone, (congrArg (List.map EngineEntry.id) hone.entries).trans hids⟩

end PluginSurvey

end TemplateInspector
