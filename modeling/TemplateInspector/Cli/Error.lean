import TemplateInspector.Files.Tree
import TemplateInspector.Selection

/-!
# Errors of commands

Why a command of the inspector does not succeed.
-/

namespace TemplateInspector.Cli

/-- Why a command did not succeed. -/
inductive CommandError
  /-- No engine has the identifier that was asked for. -/
  | selection (error : SelectionError)
  /-- The template cannot be read. -/
  | unreadable (path : String) (error : FileError)
  /-- The output cannot be written. -/
  | unwritable (path : String) (error : FileError)
  /-- The engine does not offer the language that was asked for. -/
  | unsupportedLanguage (engine language : String) (offered : List String)
  /-- The template has errors. -/
  | templateErrors
  /-- Nothing was generated; the status tells why. -/
  | generationFailed (status : String)
  /-- The plugin in a directory has problems. -/
  | invalidPlugin (path : String) (problems : List String)
  deriving DecidableEq, Repr

/-- The text that reports why a command did not succeed, in parts: its own words, and what it
quotes. -/
def CommandError.parts : CommandError → List String
  | .selection error => error.parts
  | .unreadable path error => ["failed to read ", path, ": "] ++ error.parts
  | .unwritable path error => ["failed to write ", path, ": "] ++ error.parts
  | .unsupportedLanguage engine language offered =>
    ["engine '", engine, "' does not support language '", language, "' (available: ",
      ", ".intercalate offered, ")"]
  | .templateErrors => ["template compiled with errors"]
  | .generationFailed status => [status]
  | .invalidPlugin path problems =>
    ["plugin at ", path, " is invalid: ", "; ".intercalate problems]

/-- The text that reports why a command did not succeed. -/
def CommandError.message (error : CommandError) : String :=
  String.join error.parts

end TemplateInspector.Cli
