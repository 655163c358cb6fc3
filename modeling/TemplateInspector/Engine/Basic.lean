import TemplateInspector.Language
import TemplateInspector.Source.Unit
import TemplateInspector.Syntax.Block

/-!
# What an engine is asked and what it answers

An engine compiles a template for a host, which says in which language and mode. It may succeed,
report errors of the template, decline to produce anything, fail or panic.
-/

namespace TemplateInspector

/-- What is known of an engine without running it. -/
structure EngineDescriptor where
  /-- The identifier, unique among registered engines. -/
  id : String
  /-- The name to show. -/
  name : String
  /-- The output languages; the first is the default. -/
  languages : List Language
  deriving DecidableEq, Repr

/-- Whether an engine offers a language. -/
def EngineDescriptor.supports (descriptor : EngineDescriptor) (language : Language) : Bool :=
  descriptor.languages.any language.same

/-- The engine's own description of the language with this identifier. -/
def EngineDescriptor.language? (descriptor : EngineDescriptor) (id : String) : Option Language :=
  Language.find? id descriptor.languages

/-- Why an engine gave no answer. -/
inductive EngineError
  /-- The host names no language. -/
  | hostNotConfigured
  /-- The host names a language that is not offered. -/
  | unsupportedLanguage (id : String)
  /-- The engine could not be built. -/
  | instantiation (reason : String)
  /-- The engine failed. -/
  | generation (reason : String)
  /-- The engine's answer could not be read. -/
  | protocol (reason : String)
  /-- Talking to the engine failed. -/
  | io (reason : String)
  deriving DecidableEq, Repr

/-- The text that reports an engine error. -/
def EngineError.message : EngineError → String
  | .hostNotConfigured => "compilation host has no language configured"
  | .unsupportedLanguage id => "Language not supported: " ++ id
  | .instantiation reason => "failed to instantiate engine: " ++ reason
  | .generation reason => "engine failed: " ++ reason
  | .protocol reason => "engine returned malformed output: " ++ reason
  | .io reason => "engine I/O error: " ++ reason

/-- What a generation is asked for beside the template. -/
structure Host where
  /-- The output language, if one is chosen. -/
  language : Option Language := none
  /-- Whether the output should map back to the template. -/
  designTime : Bool := false
  deriving DecidableEq, Repr

/-- A fresh host names no language. -/
theorem Host.language_fresh : ({} : Host).language = none := rfl

/-- The language of a host; it is an error to have none. -/
def Host.requireLanguage (host : Host) : Except EngineError Language :=
  match host.language with
  | some language => .ok language
  | none => .error .hostNotConfigured

/-- The language of a host if it is among the given ones. -/
def Host.requireSupported (host : Host) (supported : List Language) :
    Except EngineError Language := do
  let language ← host.requireLanguage
  if supported.any language.same then .ok language
  else .error (.unsupportedLanguage language.id)

/-- A compiled template. A template with errors still has a unit and a tree. -/
structure GenerationResult where
  /-- The generated source. -/
  code : SourceUnit
  /-- The tree of the template. -/
  document : Block
  /-- Whether the template is free of errors. -/
  success : Bool
  deriving DecidableEq, Repr

/-- What the run of an engine comes to. -/
inductive Outcome
  /-- The engine compiled the template. -/
  | result (result : GenerationResult)
  /-- The engine has nothing to say about this template. -/
  | declined
  /-- The engine reported an error of its own. -/
  | failed (error : EngineError)
  /-- The engine broke down; a message may have been left. -/
  | panicked (message : Option String)
  deriving DecidableEq, Repr

end TemplateInspector
