import TemplateInspector.Cli.Arguments

/-!
# What the inspector is asked to do

The commands of the inspector with their options. Directories with plugins may be named before or
behind a command; where both is done, the later ones alone count.
-/

namespace TemplateInspector.Cli

/-- How a list is printed. -/
inductive ListFormat
  | text
  | json
  deriving DecidableEq, Repr

/-- The format of a name. -/
def ListFormat.ofName? : String → Option ListFormat
  | "text" => some .text
  | "json" => some .json
  | _ => none

/-- What of a generation is printed. -/
inductive GenerateFormat
  /-- The generated source. -/
  | code
  /-- The tree of the template. -/
  | tree
  /-- Everything. -/
  | json
  deriving DecidableEq, Repr

/-- The format of a name. -/
def GenerateFormat.ofName? : String → Option GenerateFormat
  | "code" => some .code
  | "tree" => some .tree
  | "json" => some .json
  | _ => none

/-- What is selected on the command line. -/
structure SelectionOptions where
  /-- The engine. -/
  engine : Option String := none
  /-- The language. -/
  language : Option String := none
  /-- Whether the design-time mode is asked for. -/
  designTime : Bool := false
  deriving DecidableEq, Repr

/-- A command of the inspector. -/
inductive Task
  /-- Lists the engines. -/
  | engines (format : ListFormat)
  /-- Lists the plugins. -/
  | listPlugins
  /-- Checks the plugin in a directory. -/
  | validatePlugin (path : String)
  /-- Compiles a template once. -/
  | generate (template : String) (selection : SelectionOptions) (format : GenerateFormat)
      (output : Option String)
  /-- Compiles a template whenever it changes. -/
  | watch (template : String) (selection : SelectionOptions)
  deriving DecidableEq, Repr

/-- A command with what belongs to all commands. -/
structure Invocation where
  /-- Directories in which plugins are searched. -/
  pluginPaths : List String := []
  /-- What is to be done. -/
  task : Task
  deriving DecidableEq, Repr

/-- The options of every level. -/
def commonOptions : List OptionSpec :=
  [{ long := "verbose", short := some 'v', kind := .flag },
    { long := "plugin-path", short := none, kind := .values },
    { long := "help", short := some 'h', kind := .help }]

/-- The options that select. -/
def selectionOptions : List OptionSpec :=
  [{ long := "engine", short := some 'e', kind := .value },
    { long := "language", short := some 'l', kind := .value },
    { long := "design-time", short := none, kind := .flag }]

/-- The option that names one of some formats. -/
def formatOption (names : List String) : OptionSpec :=
  { long := "format", short := some 'f', kind := .value, rule := .oneOf names }

/-- The option that names the file for the output. -/
def outputOption : OptionSpec :=
  { long := "output", short := some 'o', kind := .value, rule := .nonempty }

/-- The level of the program. -/
def programLevel : Level where
  options := { long := "version", short := some 'V', kind := .version } :: commonOptions
  commands := ["engines", "plugin", "generate", "watch"]

/-- The level of the command that lists engines. -/
def enginesLevel : Level where
  options := formatOption ["text", "json"] :: commonOptions

/-- The level of the commands on plugins. -/
def pluginLevel : Level where
  options := commonOptions
  commands := ["list", "validate"]

/-- The level of the command that lists plugins. -/
def listLevel : Level where
  options := commonOptions

/-- The level of the command that checks a plugin. -/
def validateLevel : Level where
  options := commonOptions
  texts := 1

/-- The level of the command that compiles a template. -/
def generateLevel : Level where
  options :=
    selectionOptions ++ formatOption ["code", "tree", "json"] :: outputOption :: commonOptions
  texts := 1

/-- The level of the command that watches a template. -/
def watchLevel : Level where
  options := selectionOptions ++ commonOptions
  texts := 1

namespace Matches

/-- What the value of an option names, or a default. -/
def named (found : Matches) (option : String) (ofName? : String → Option α) (default : α) : α :=
  ((found.value? option).bind ofName?).getD default

/-- The text of a level that has one. -/
def text (found : Matches) (name : String) : Except Stop String :=
  match found.texts with
  | text :: _ => .ok text
  | [] => .error (.fault (.missingText name))

/-- The text of a level that has one, which names a file. -/
def fileText (found : Matches) (name : String) : Except Stop String := do
  let text ← found.text name
  if text = "" then .error (.fault (.invalidValue name text)) else .ok text

/-- What is selected. -/
def selection (found : Matches) : SelectionOptions :=
  ⟨found.value? "engine", found.value? "language", found.has "design-time"⟩

/-- The directories with plugins: those that are named on this level, else those that were named on
levels above. -/
def pluginPaths (found : Matches) (above : List String) : List String :=
  match found.valuesOf "plugin-path" with
  | [] => above
  | paths => paths

end Matches

namespace Invocation

/-- Reads the arguments of a command on plugins. -/
def readPlugin (above : List String) (arguments : List String) : Except Stop Invocation := do
  let found ← pluginLevel.read arguments
  let above := found.pluginPaths above
  match found.command with
  | some ("list", rest) =>
    let found ← listLevel.read rest
    return ⟨found.pluginPaths above, .listPlugins⟩
  | some ("validate", rest) =>
    let found ← validateLevel.read rest
    return ⟨found.pluginPaths above, .validatePlugin (← found.text "path")⟩
  | _ => .error (.fault .missingCommand)

/-- Reads a command line. -/
def read (arguments : List String) : Except Stop Invocation := do
  let found ← programLevel.read arguments
  let above := found.pluginPaths []
  match found.command with
  | some ("engines", rest) =>
    let found ← enginesLevel.read rest
    return ⟨found.pluginPaths above, .engines (found.named "format" ListFormat.ofName? .text)⟩
  | some ("plugin", rest) => readPlugin above rest
  | some ("generate", rest) =>
    let found ← generateLevel.read rest
    let template ← found.fileText "template"
    return ⟨found.pluginPaths above, .generate template found.selection
      (found.named "format" GenerateFormat.ofName? .code) (found.value? "output")⟩
  | some ("watch", rest) =>
    let found ← watchLevel.read rest
    return ⟨found.pluginPaths above, .watch (← found.fileText "template") found.selection⟩
  | _ => .error (.fault .missingCommand)

end Invocation

end TemplateInspector.Cli
