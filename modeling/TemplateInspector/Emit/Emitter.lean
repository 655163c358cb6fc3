import TemplateInspector.Emit.Template
import TemplateInspector.Language

/-!
# Emitters

An emitter writes units in one language. A table keeps emitters by language identifier; a language
without an entry is not supported.
-/

namespace TemplateInspector

/-- Why a unit could not be written. -/
inductive EmitError
  /-- Writing the unit in this language failed for this reason. -/
  | render (language reason : String)
  deriving DecidableEq, Repr

/-- The text that reports an emit error. -/
def EmitError.message : EmitError → String
  | .render language reason => "failed to render " ++ language ++ " source: " ++ reason

/-- The reason if a text cannot be taken up where it is written. -/
def EmitError.formatting : String := "an error occurred when formatting an argument"

/-- Why there is no emitter. -/
inductive LanguageError
  /-- No emitter is registered for the language with this identifier. -/
  | unsupported (id : String)
  deriving DecidableEq, Repr

/-- The text that reports a language error. -/
def LanguageError.message : LanguageError → String
  | .unsupported id => "Language not supported: " ++ id

/-- A writer of units. -/
structure Emitter where
  /-- The identifier of the language it writes. -/
  languageId : String
  /-- Writes a unit. -/
  emit : SourceUnit → Except EmitError String

namespace Emitter

/-- The built-in emitter of a dialect. -/
def ofDialect (dialect : Dialect) : Emitter where
  languageId := dialect.languageId
  emit unit := .ok (dialect.emit unit)

/-- The literal text that a statement writes, if it writes any. -/
def literalText? : Statement → Option String
  | .writeLiteral text => some text
  | _ => none

/-- An emitter that writes each literal text of a unit with a line feed after it. -/
def plain (id : String) : Emitter where
  languageId := id
  emit unit := .ok <|
    String.join ((unit.bodies.flatten.filterMap literalText?).map fun text => text ++ "\n")

/-- An emitter that always fails. -/
def failing (id : String) : Emitter where
  languageId := id
  emit _ := .error (.render id EmitError.formatting)

end Emitter

/-- Emitters by language identifier, in the order of the identifiers. -/
structure EmitterTable where
  /-- The entries. -/
  entries : List (String × Emitter) := []

namespace EmitterTable

/-- Puts an entry in its place among ordered entries. An entry of the same identifier gives way. -/
def insertEntry (id : String) (emitter : Emitter) :
    List (String × Emitter) → List (String × Emitter)
  | [] => [(id, emitter)]
  | entry :: others =>
    if id = entry.1 then (id, emitter) :: others
    else if id < entry.1 then (id, emitter) :: entry :: others
    else entry :: insertEntry id emitter others

/-- Registers an emitter for a language, in place of any other. -/
def register (table : EmitterTable) (id : String) (emitter : Emitter) : EmitterTable :=
  ⟨insertEntry id emitter table.entries⟩

/-- The emitters of all dialects. -/
def builtin : EmitterTable :=
  Dialect.all.foldl (fun table dialect => table.register dialect.languageId (.ofDialect dialect)) {}

/-- The emitter for the language with this identifier. -/
def find? (table : EmitterTable) (id : String) : Option Emitter :=
  (table.entries.find? fun entry => entry.1 == id).map (·.2)

/-- Whether there is an emitter for the language with this identifier. -/
def isDefined (table : EmitterTable) (id : String) : Bool :=
  (table.find? id).isSome

/-- The identifiers of the languages with an emitter, in order. -/
def languageIds (table : EmitterTable) : List String :=
  table.entries.map (·.1)

/-- The emitter for a language. -/
def create (table : EmitterTable) (language : Language) : Except LanguageError Emitter :=
  match table.find? language.id with
  | some emitter => .ok emitter
  | none => .error (.unsupported language.id)

end EmitterTable

end TemplateInspector
