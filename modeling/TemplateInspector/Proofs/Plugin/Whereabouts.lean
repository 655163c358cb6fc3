import Mathlib.Control.Monad.Basic
import TemplateInspector.Plugin.Population
import TemplateInspector.Proofs.Files.Resolution

/-!
# Where the program of a plugin is looked for

The program of a plugin is looked for twice: from the working directory, when the plugin is checked,
and from the directory of the plugin, when it is started. Its path is the same both times, and holds
the path of the directory. So where that path is relative, starting follows it a second time, from
the directory to which it led.
-/

namespace TemplateInspector

/-- A command that names a file is not blank. -/
theorem PluginManifest.not_isBlankText_of_isPathLike {command : String}
    (h : isPathLike command = true) : Text.isBlankText command = false := by
  obtain ⟨c, hmem, hc⟩ := List.any_eq_true.mp h
  refine List.all_eq_false.mpr ⟨c, hmem, ?_⟩
  simp only [Bool.or_eq_true, decide_eq_true_eq] at hc
  rcases hc with rfl | rfl <;> decide

/-- What is started as a program is a file. -/
theorem Program.exists_of_start {files : FileTree} {directory : Place} {path : String}
    {arguments : List (List Char)} {program : Program}
    (h : start files directory path arguments = .ok program) :
    ∃ file, files.resolve directory path = .ok file ∧ files.isFileAt file = true := by
  rw [start, ofFile, except_bind_eq_ok_iff] at h
  obtain ⟨node, hfind, hprogram⟩ := h
  obtain ⟨file, hfile, hnode⟩ := FileTree.find_eq_ok_iff.mp hfind
  refine ⟨file, hfile, ?_⟩
  rw [FileTree.isFileAt, hnode, Option.any_some]
  cases node with
  | file bytes executable => rfl
  | utility name => rfl
  | directory => cases hprogram
  | sink => cases hprogram

namespace Machine

/-- Where a program is looked for when it is started. -/
def startedPlace (machine : Machine) (launch : Launch) : Except FileError Place := do
  let directory ← machine.files.resolve machine.directory launch.directory
  let path ← machine.programPath launch directory
  machine.files.resolve directory path

/-- A program that runs is a file at the place where it is looked for. -/
theorem exists_of_run {machine : Machine} {launch : Launch} {result : Termination × Machine}
    (h : machine.run launch = .ok result) :
    ∃ file, machine.startedPlace launch = .ok file ∧ machine.files.isFileAt file = true := by
  unfold run at h
  split at h
  case isTrue => cases h
  case isFalse =>
    obtain ⟨directory, hdirectory, h⟩ := except_bind_eq_ok_iff.mp h
    dsimp only at h
    -- Only in a directory is the program looked for.
    split at h
    case h_1 =>
      obtain ⟨path, hpath, h⟩ := except_bind_eq_ok_iff.mp h
      obtain ⟨program, hprogram, -⟩ := except_bind_eq_ok_iff.mp h
      obtain ⟨file, hfile, hisFile⟩ := Program.exists_of_start hprogram
      refine ⟨file, ?_, hisFile⟩
      exact except_bind_eq_ok_iff.mpr
        ⟨directory, hdirectory, except_bind_eq_ok_iff.mpr ⟨path, hpath, hfile⟩⟩
    case h_2 => cases h
    case h_3 => cases h

end Machine

namespace Plugin

variable {machine : Machine} {plugin : Plugin} {place : Place}

/-- Where the program of a plugin is looked for when the plugin is registered and its engine is
built. -/
def checkedPlace (machine : Machine) (plugin : Plugin) : Except FileError Place :=
  machine.files.resolve machine.directory plugin.commandEngine.program

/-- A command that names a file is joined to the directory of its plugin. -/
theorem program_commandEngine
    (hcommand : PluginManifest.isPathLike plugin.manifest.command = true) :
    plugin.commandEngine.program = Path.join plugin.directory plugin.manifest.command := by
  cases habsolute : Path.isAbsolute plugin.manifest.command with
  | true =>
    simp [commandEngine, PluginManifest.commandPath, habsolute, Path.join_of_isAbsolute habsolute]
  | false => simp [commandEngine, PluginManifest.commandPath, habsolute, hcommand]

/-- What is checked is whether there is a file at the place where the program is looked for. -/
theorem isFile_program_iff :
    machine.isFile plugin.commandEngine.program = true ↔
      ∃ file, plugin.checkedPlace machine = .ok file ∧ machine.files.isFileAt file = true :=
  FileTree.isFile_iff

/-- The command of a plugin is without problems if there is a file where it is checked. -/
theorem commandProblems_eq_nil_iff
    (hcommand : PluginManifest.isPathLike plugin.manifest.command = true) :
    plugin.manifest.commandProblems machine plugin.directory = [] ↔
      ∃ file, plugin.checkedPlace machine = .ok file ∧ machine.files.isFileAt file = true := by
  have hblank := PluginManifest.not_isBlankText_of_isPathLike hcommand
  rw [← isFile_program_iff]
  simp [PluginManifest.commandProblems, hblank, hcommand, commandEngine]

/-- The engine of a plugin can be built if there is a file where its program is checked, or its
path has no more than one step. -/
theorem ensureAvailable_eq_ok_iff :
    plugin.commandEngine.ensureAvailable machine = .ok () ↔
      (1 < (Path.parts plugin.commandEngine.program).length →
        ∃ file, plugin.checkedPlace machine = .ok file ∧ machine.files.isFileAt file = true) := by
  rw [← isFile_program_iff]
  simp [CommandEngine.ensureAvailable]

/-- The path of a program that is checked is followed again from the directory of the plugin. -/
theorem startedPlace_launch
    (hcommand : PluginManifest.isPathLike plugin.manifest.command = true)
    (hplace : machine.files.resolve machine.directory plugin.directory = .ok place)
    (language : Language) (designTime : Bool) (source : String) :
    machine.startedPlace (plugin.commandEngine.launch language designTime source) =
      machine.files.resolve place plugin.commandEngine.program := by
  have hslash : '/' ∈ plugin.commandEngine.program.toList := by
    rw [program_commandEngine hcommand]
    exact Path.slash_mem_join (FileTree.resolve_eq_ok_iff.mp hplace).2.1 plugin.manifest.command
  have hpath : machine.programPath (plugin.commandEngine.launch language designTime source) place =
      .ok plugin.commandEngine.program := by
    simp [Machine.programPath, CommandEngine.launch, hslash]
  have hdirectory : machine.files.resolve machine.directory
      (plugin.commandEngine.launch language designTime source).directory = .ok place := hplace
  simp only [Machine.startedPlace, hdirectory, hpath, bind, Except.bind]

/-- The command of a plugin is without problems, and its engine can be built, if there is a file at
the place where the program is checked; and what runs is a file at the place where the program is
started. The two places are the same if the directory of the plugin or its command is absolute, or
if the path of the directory leads back to the directory from there. Otherwise the command is
followed from two places: from the directory when it is checked, and from where the path of the
directory leads from the directory when it is started. -/
theorem started_where_checked
    (hcommand : PluginManifest.isPathLike plugin.manifest.command = true)
    (hplace : machine.files.resolve machine.directory plugin.directory = .ok place) :
    (plugin.manifest.commandProblems machine plugin.directory = [] ↔
      ∃ file, plugin.checkedPlace machine = .ok file ∧ machine.files.isFileAt file = true) ∧
    (plugin.commandEngine.ensureAvailable machine = .ok () ↔
      (1 < (Path.parts plugin.commandEngine.program).length →
        ∃ file, plugin.checkedPlace machine = .ok file ∧ machine.files.isFileAt file = true)) ∧
    ∀ language designTime source,
      let launch := plugin.commandEngine.launch language designTime source
      (∀ result, machine.run launch = .ok result →
        ∃ file, machine.startedPlace launch = .ok file ∧ machine.files.isFileAt file = true) ∧
      (Path.isAbsolute plugin.directory = true ∨ Path.isAbsolute plugin.manifest.command = true ∨
          machine.files.resolve place plugin.directory = .ok place →
        machine.startedPlace launch = plugin.checkedPlace machine) ∧
      (Path.isAbsolute plugin.manifest.command = false →
        ∀ file, plugin.checkedPlace machine = .ok file →
          machine.files.walk place (Path.segments plugin.manifest.command) = .ok file ∧
          machine.startedPlace launch = machine.files.resolve place plugin.directory >>=
            (machine.files.walk · (Path.segments plugin.manifest.command))) := by
  have hprogram := program_commandEngine hcommand
  refine ⟨commandProblems_eq_nil_iff hcommand, ensureAvailable_eq_ok_iff, ?_⟩
  intro language designTime source launch
  have hstarted : machine.startedPlace launch =
      machine.files.resolve place plugin.commandEngine.program :=
    startedPlace_launch hcommand hplace language designTime source
  refine ⟨fun result hrun => Machine.exists_of_run hrun, fun hsame => ?_, ?_⟩
  · have hagain (h : machine.files.resolve place plugin.directory = .ok place) :
        machine.startedPlace launch = plugin.checkedPlace machine := by
      rw [hstarted, checkedPlace, hprogram]
      exact FileTree.resolve_join_congr h hplace
    rcases hsame with hdirectory | habsolute | hreturns
    · exact hagain ((FileTree.resolve_of_isAbsolute hdirectory ..).trans hplace)
    · rw [hstarted, checkedPlace, hprogram, Path.join_of_isAbsolute habsolute]
      exact FileTree.resolve_of_isAbsolute habsolute ..
    · exact hagain hreturns
  · intro hrelative file hfile
    rw [checkedPlace, hprogram] at hfile
    have hjoin := FileTree.resolve_join hrelative hplace hfile
    refine ⟨?_, by rw [hstarted, hprogram, hjoin]⟩
    have hchecked := hjoin machine.directory
    rw [hfile, hplace] at hchecked
    exact hchecked.symm

/-- A second directory of the same path in the directory of a plugin: its program is the one that
is started, and not the one that is checked. -/
theorem started_where_checked_decoy :
    let machine : Machine := {
      files := ⟨[(["work"], .directory), (["work", "plugins"], .directory),
        (["work", "plugins", "echo"], .file .empty true),
        (["work", "plugins", "plugins"], .directory),
        (["work", "plugins", "plugins", "echo"], .file .empty true)]⟩
      directory := ["work"] }
    let plugin : Plugin := ⟨"plugins", { id := "echo", name := "Echo", command := "./echo" }⟩
    PluginManifest.isPathLike plugin.manifest.command = true ∧
    machine.files.resolve machine.directory plugin.directory = .ok ["work", "plugins"] ∧
    plugin.checkedPlace machine = .ok ["work", "plugins", "echo"] ∧
    ∀ language designTime source,
      machine.startedPlace (plugin.commandEngine.launch language designTime source) =
        .ok ["work", "plugins", "plugins", "echo"] := by
  intro machine plugin
  have hcommand : PluginManifest.isPathLike plugin.manifest.command = true := by decide
  have hplace : machine.files.resolve machine.directory plugin.directory =
      .ok ["work", "plugins"] := by decide +kernel
  have hchecked : plugin.checkedPlace machine = .ok ["work", "plugins", "echo"] := by decide +kernel
  refine ⟨hcommand, hplace, hchecked, fun language designTime source => ?_⟩
  obtain ⟨-, -, hlaunch⟩ := started_where_checked hcommand hplace
  obtain ⟨-, -, hrelative⟩ := hlaunch language designTime source
  rw [(hrelative (by decide) _ hchecked).2]
  decide +kernel

/-- A plugin that is found by a relative path: its program is a file where it is checked, and is not
found where it is started. -/
theorem checked_program_not_found :
    let manifest := "[engine]\nid = \"echo\"\nname = \"Echo\"\ncommand = \"bin/echo\"\n" ++
      "[[languages]]\nid = \"rust\"\nname = \"Rust\"\n"
    let machine : Machine := {
      files := ⟨[(["work"], .directory), (["work", "spyglass-plugins"], .directory),
        (["work", "spyglass-plugins", "echo"], .directory),
        (["work", "spyglass-plugins", "echo", "spyglass-plugin.toml"],
          .file manifest.toUTF8 false),
        (["work", "spyglass-plugins", "echo", "bin"], .directory),
        (["work", "spyglass-plugins", "echo", "bin", "echo"], .file .empty true)]⟩
      directory := ["work"] }
    let rust : Language := ⟨"rust", "Rust"⟩
    let plugin : Plugin := ⟨"./spyglass-plugins/echo",
      { id := "echo", name := "Echo", command := "bin/echo", languages := [rust] }⟩
    (PluginSurvey.ofSearch machine ["./spyglass-plugins"]).plugins = [plugin] ∧
    plugin.problems machine = [] ∧ plugin.commandEngine.ensureAvailable machine = .ok () ∧
    plugin.checkedPlace machine =
      .ok ["work", "spyglass-plugins", "echo", "bin", "echo"] ∧
    machine.startedPlace (plugin.commandEngine.launch rust false "x") = .error .notFound ∧
    (plugin.commandEngine.generate "x" { language := some rust } machine).1 =
      .failed (.io "No such file or directory (os error 2)") := by
  intro manifest machine rust plugin
  refine ⟨?_, ?_, ?_, ?_, ?_, ?_⟩ <;> decide +kernel

end Plugin

end TemplateInspector
