import TemplateInspector.Engine.Basic

/-!
# The selected engine and language

While an engine is selected, the selected language is one that the engine describes, or none if it
has none. Rather than refuse a language, a selection repairs it: the engine's own description of the
same language is taken, else the engine's first language. The registered engines are given as their
descriptors in order, the *catalog*.
-/

namespace TemplateInspector

/-- Why an engine could not be selected. -/
inductive SelectionError
  /-- No engine with this identifier is registered. -/
  | unknownEngine (id : String)
  deriving DecidableEq, Repr

/-- The text that reports an engine that could not be selected, in parts. -/
def SelectionError.parts : SelectionError → List String
  | .unknownEngine id => ["no engine registered with id '", id, "'"]

/-- The text that reports an engine that could not be selected. -/
def SelectionError.message (error : SelectionError) : String :=
  String.join error.parts

/-- The description of the current language among the supported ones, else the first of those. -/
def resolveLanguage (current : Option Language) (supported : List Language) : Option Language :=
  (current.bind fun language => Language.find? language.id supported) <|> supported.head?

/-- The descriptor of an engine in a catalog. -/
def findEngine? (catalog : List EngineDescriptor) (id : String) : Option EngineDescriptor :=
  catalog.find? fun descriptor => descriptor.id == id

/-- The selected engine and language. -/
structure Selection where
  /-- The identifier of the selected engine. -/
  engine : Option String := none
  /-- The selected language. -/
  language : Option Language := none
  deriving DecidableEq, Repr

namespace Selection

/-- Whether two selections mean the same engine and the same language. -/
def same (a b : Selection) : Bool :=
  a.engine == b.engine && Language.sameOption a.language b.language

/-- The descriptor of the selected engine, if it is registered. -/
def descriptor? (selection : Selection) (catalog : List EngineDescriptor) :
    Option EngineDescriptor :=
  selection.engine.bind (findEngine? catalog)

/-- The languages of the selected engine. -/
def languages (selection : Selection) (catalog : List EngineDescriptor) : List Language :=
  ((selection.descriptor? catalog).map EngineDescriptor.languages).getD []

/-- Repairs the language for the selected engine, if that is registered. -/
def ensureLanguage (selection : Selection) (catalog : List EngineDescriptor) : Selection :=
  match selection.descriptor? catalog with
  | some descriptor =>
    { selection with language := resolveLanguage selection.language descriptor.languages }
  | none => selection

/-- The selected engine if it is registered, else the first registered one. -/
def reconciledEngine (selection : Selection) (catalog : List EngineDescriptor) : Option String :=
  match selection.descriptor? catalog with
  | some _ => selection.engine
  | none => catalog.head?.map EngineDescriptor.id

/-- The selection after engines were registered or removed: an engine that is gone, or none, gives
way to the first registered one. -/
def reconciled (selection : Selection) (catalog : List EngineDescriptor) : Selection :=
  ensureLanguage { selection with engine := selection.reconciledEngine catalog } catalog

/-- Reconciles a selection with the registered engines, and tells whether it has changed. -/
def reconcile (selection : Selection) (catalog : List EngineDescriptor) : Selection × Bool :=
  let next := selection.reconciled catalog
  (next, !next.same selection)

/-- Selects a registered engine, or none, and tells whether the selection has changed. -/
def selectEngine (selection : Selection) (id : Option String) (catalog : List EngineDescriptor) :
    Except SelectionError (Selection × Bool) :=
  match id with
  | some name =>
    if (findEngine? catalog name).isSome then
      let next := ensureLanguage { selection with engine := some name } catalog
      .ok (next, !next.same selection)
    else .error (.unknownEngine name)
  | none =>
    let next := { selection with engine := none }
    .ok (next, !next.same selection)

/-- Selects a language, repaired for the selected engine, and tells whether the selection has
changed. -/
def selectLanguage (selection : Selection) (language : Option Language)
    (catalog : List EngineDescriptor) : Selection × Bool :=
  let next := ensureLanguage { selection with language } catalog
  (next, !next.same selection)

end Selection

end TemplateInspector
