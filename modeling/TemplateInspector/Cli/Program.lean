import TemplateInspector.Cli.Generate
import TemplateInspector.Cli.Listing
import TemplateInspector.Cli.Watch

/-!
# The inspector as a program

What a command line comes to on a machine: what is printed, with which code the program ends, and
how the machine is left. Watching a template does not end by itself.
-/

namespace TemplateInspector.Cli

/-- What a run of the program comes to. -/
structure Run where
  /-- The code with which it ends. -/
  code : Nat
  /-- What it prints. -/
  transcript : Transcript
  /-- The machine afterwards. -/
  machine : Machine
  /-- The watch that goes on, if there is one. -/
  watch : Option Watch := none

/-- The line that tells the version. -/
def versionLine : String := "spyglass-ctl 0.1.0"

/-- How the program is called. -/
def usage : String :=
  "\n".intercalate [
    "Usage: spyglass-ctl [OPTIONS] <COMMAND>",
    "",
    "Commands:",
    "  engines [-f text|json]",
    "  plugin list",
    "  plugin validate <PATH>",
    "  generate <TEMPLATE|-> [-e ID] [-l ID] [--design-time] [-f code|tree|json] [-o FILE]",
    "  watch <TEMPLATE> [-e ID] [-l ID] [--design-time]",
    "",
    "Options:",
    "  -v, --verbose",
    "      --plugin-path <DIR>",
    "  -h, --help",
    "  -V, --version"]

/-- A run that ends with a verdict. -/
def Run.ofVerdict (machine : Machine) (t : Transcript) : Except CommandError Unit → Run
  | .ok _ => { code := 0, transcript := t, machine }
  | .error error => { code := 1, transcript := t.error error, machine }

/-- A run that fails before anything is printed. -/
def Run.failed (machine : Machine) (error : CommandError) : Run :=
  .ofVerdict machine {} (.error error)

/-- Whether a template is to be read from the input. -/
def isInput (path : String) : Bool :=
  Path.parts path = [.name "-"]

/-- The text of a template; a hyphen stands for the input. -/
def readTemplate (machine : Machine) (input path : String) : Except CommandError String :=
  if isInput path then .ok input
  else (machine.readText path).mapError (.unreadable path)

/-- The directories in which plugins are searched. -/
def searchPaths (machine : Machine) (settings : InspectorSettings) : List String :=
  settings.pluginPaths.map machine.expandHome

/-- A session over the engines of a machine, set up. -/
def openMachine (machine : Machine) (settings : InspectorSettings) (options : SelectionOptions) :
    Except CommandError (Session Machine) :=
  openSession settings options (loadRegistry machine (searchPaths machine settings)) machine

/-- Lists the engines. -/
def runEngines (machine : Machine) (settings : InspectorSettings) (format : ListFormat) : Run :=
  let registry := loadRegistry machine (searchPaths machine settings)
  let t := match format with
    | .text => listEngines registry
    | .json => ({} : Transcript).line (engineListing registry).pretty
  .ofVerdict machine t (.ok ())

/-- Lists the plugins. -/
def runListPlugins (machine : Machine) (settings : InspectorSettings) : Run :=
  let survey := PluginSurvey.ofSearch machine (searchPaths machine settings)
  .ofVerdict machine (listPlugins machine settings survey) (.ok ())

/-- Puts what was rendered where it belongs. -/
def deliver (machine : Machine) (output : Option String) (rendered : String) :
    Except CommandError (Machine × Transcript) :=
  match output with
  | none => .ok (machine, ({} : Transcript).line (Text.trimEnd rendered))
  | some path =>
    match machine.writeText path rendered with
    | .ok machine => .ok (machine, ({} : Transcript).success ("Wrote " ++ path))
    | .error error => .error (.unwritable path error)

/-- Compiles a template once. -/
def runGenerate (machine : Machine) (settings : InspectorSettings) (input template : String)
    (options : SelectionOptions) (format : GenerateFormat) (output : Option String) : Run :=
  match readTemplate machine input template with
  | .error error => .failed machine error
  | .ok text =>
    match openMachine machine settings options with
    | .error error => .failed machine error
    | .ok s =>
      let s := compile s text
      match deliver s.world output (render format s) with
      | .error error => .failed s.world error
      | .ok (machine, t) => .ofVerdict machine (t.status s.controller.status) (verdict s.controller)

/-- Begins to watch a template. -/
def runWatch (machine : Machine) (settings : InspectorSettings) (input template : String)
    (options : SelectionOptions) : Run :=
  match readTemplate machine input template with
  | .error error => .failed machine error
  | .ok text =>
    match openMachine machine settings options with
    | .error error => .failed machine error
    | .ok s =>
      let watch := Watch.start template text s
      { code := 0, transcript := ({} : Transcript).aside watch.greeting, machine
        watch := some watch }

/-- The settings for an invocation. -/
def settingsFor (machine : Machine) (invocation : Invocation) : InspectorSettings :=
  let settings := InspectorSettings.find machine
  { settings with pluginPaths := settings.pluginPaths ++ invocation.pluginPaths }

/-- Carries an invocation out. -/
def perform (machine : Machine) (input : String) (invocation : Invocation) : Run :=
  let settings := settingsFor machine invocation
  match invocation.task with
  | .engines format => runEngines machine settings format
  | .listPlugins => runListPlugins machine settings
  | .validatePlugin path =>
    let (t, verdict) := validatePlugin machine path
    .ofVerdict machine t verdict
  | .generate template options format output =>
    runGenerate machine settings input template options format output
  | .watch template options => runWatch machine settings input template options

/-- Whether a command line reads the input. -/
def readsInput (arguments : List String) : Bool :=
  match Invocation.read arguments with
  | .ok ⟨_, .generate template ..⟩ | .ok ⟨_, .watch template _⟩ => isInput template
  | _ => false

/-- Runs the program. -/
def run (machine : Machine) (input : String) (arguments : List String) : Run :=
  match Invocation.read arguments with
  | .ok invocation => perform machine input invocation
  | .error .version => .ofVerdict machine (({} : Transcript).line versionLine) (.ok ())
  | .error .help => .ofVerdict machine (({} : Transcript).line usage) (.ok ())
  | .error (.fault error) =>
    { code := 2, machine
      transcript := (({} : Transcript).remark ("error: " ++ error.message)).remark usage }

end TemplateInspector.Cli
