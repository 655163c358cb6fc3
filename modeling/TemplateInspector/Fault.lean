import TemplateInspector.Loop

/-!
# Faults of the inspector

Every error that the parts of the inspector report, under the part that reports it. A fault reads
like the error it stands for.
-/

namespace TemplateInspector

/-- An error of any part of the inspector. -/
inductive InspectorFault
  | discovery (error : DiscoveryError)
  | composition (error : CompositionError)
  | language (error : LanguageError)
  | emit (error : EmitError)
  | engine (error : EngineError)
  | registry (error : RegistryError)
  | selection (error : SelectionError)
  deriving DecidableEq, Repr

namespace InspectorFault

/-- The name of the part that reports a fault. -/
def group : InspectorFault → String
  | discovery _ => "Discovery"
  | composition _ => "Composition"
  | language _ => "Language"
  | emit _ => "Emit"
  | engine _ => "Engine"
  | registry _ => "Registry"
  | selection _ => "Selection"

/-- The text that reports a fault. -/
def message : InspectorFault → String
  | discovery error => error.message
  | composition error => error.message
  | language error => error.message
  | emit error => error.message
  | engine error => error.message
  | registry error => error.message
  | selection error => error.message

end InspectorFault

end TemplateInspector
