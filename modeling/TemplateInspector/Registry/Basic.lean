import TemplateInspector.Engine.Entry
import TemplateInspector.Engine.Literal
import TemplateInspector.Engine.Tagged
import TemplateInspector.Registry.Feed

/-!
# The registry of engines

Engines are registered in order under unique identifiers; the first one is the default. Every
change, and every source of engines that could not be loaded, is published to a feed. Sources that
failed are also kept as diagnostics and never affect the engines.
-/

namespace TemplateInspector

/-- A source of engines that could not be loaded. -/
structure DiscoveryError where
  /-- Where the engine was to come from. -/
  origin : String
  /-- Why it could not be loaded. -/
  reason : String
  deriving DecidableEq, Repr

/-- The text that reports a source that could not be loaded, in parts. -/
def DiscoveryError.parts (error : DiscoveryError) : List String :=
  ["failed to load engine plugin from ", error.origin, ": ", error.reason]

/-- The text that reports a source that could not be loaded. -/
def DiscoveryError.message (error : DiscoveryError) : String :=
  String.join error.parts

/-- Why an engine was not registered. -/
inductive RegistryError
  /-- The identifier is taken. -/
  | duplicateEngine (id : String)
  deriving DecidableEq, Repr

/-- The text that reports an engine that was not registered. -/
def RegistryError.message : RegistryError → String
  | .duplicateEngine id => "engine '" ++ id ++ "' is already registered"

/-- What a registry publishes. -/
inductive RegistryEvent
  | added (id : String)
  | removed (id : String)
  | discoveryFailed (error : DiscoveryError)
  deriving DecidableEq, Repr

/-- The registered engines with what happened to them. -/
structure Registry (σ : Type) where
  /-- The entries in the order of their registration. -/
  entries : List (EngineEntry σ) := []
  /-- The sources that could not be loaded, in order. -/
  diagnostics : List DiscoveryError := []
  /-- What was published. -/
  feed : Feed RegistryEvent := {}

namespace Registry

/-- The descriptors of the registered engines, in order. -/
def catalog (registry : Registry σ) : List EngineDescriptor :=
  registry.entries.map EngineEntry.descriptor

/-- The identifiers of the registered engines, in order. -/
def ids (registry : Registry σ) : List String :=
  registry.entries.map EngineEntry.id

/-- The entry of an engine. -/
def get? (registry : Registry σ) (id : String) : Option (EngineEntry σ) :=
  registry.entries.find? fun entry => entry.id == id

/-- The entry of the engine that was registered first. -/
def first? (registry : Registry σ) : Option (EngineEntry σ) :=
  registry.entries.head?

/-- Whether an engine is registered. -/
def contains (registry : Registry σ) (id : String) : Bool :=
  (registry.get? id).isSome

/-- The number of registered engines. -/
def size (registry : Registry σ) : Nat :=
  registry.entries.length

/-- Whether no engine is registered. -/
def isEmpty (registry : Registry σ) : Bool :=
  registry.size == 0

/-- Registers an engine, unless its identifier is taken. -/
def register (registry : Registry σ) (entry : EngineEntry σ) :
    Except RegistryError (Registry σ) :=
  if registry.contains entry.id then .error (.duplicateEngine entry.id)
  else .ok { registry with
    entries := registry.entries ++ [entry]
    feed := registry.feed.publish (.added entry.id) }

/-- Registers an engine if its identifier is free. -/
def registerIfNew (registry : Registry σ) (entry : EngineEntry σ) : Registry σ :=
  match registry.register entry with
  | .ok registry => registry
  | .error _ => registry

/-- Removes an engine. Yields its entry, or none if it was not registered. -/
def unregister (registry : Registry σ) (id : String) : Option (EngineEntry σ) × Registry σ :=
  match registry.get? id with
  | some entry =>
    (some entry, { registry with
      entries := registry.entries.eraseP fun entry => entry.id == id
      feed := registry.feed.publish (.removed id) })
  | none => (none, registry)

/-- Records a source that could not be loaded. -/
def reportFailure (registry : Registry σ) (error : DiscoveryError) : Registry σ :=
  { registry with
    diagnostics := registry.diagnostics ++ [error]
    feed := registry.feed.publish (.discoveryFailed error) }

/-- A reader of what the registry will publish from now on. -/
def subscribe (registry : Registry σ) : Subscription :=
  registry.feed.subscribe

/-- Puts an entry in the place of the one with its identifier. -/
def replace (registry : Registry σ) (entry : EngineEntry σ) : Registry σ :=
  { registry with
    entries := registry.entries.map fun old => if old.id == entry.id then entry else old }

/-- Asks for the engine of an identifier; none if it is not registered. -/
def instantiate (registry : Registry σ) (id : String) (world : σ) :
    Option (Instantiation σ) × Registry σ × σ :=
  match registry.get? id with
  | none => (none, registry, world)
  | some entry =>
    let (instantiation, entry, world) := entry.request world
    (some instantiation, registry.replace entry, world)

/-- An entry that builds an engine of this library when it is asked for. -/
def builtinEntry (descriptor : EngineDescriptor) (generate : String → Host → Outcome) :
    EngineEntry σ where
  descriptor
  build world := (.ok { origin := .builtin, generate := (generate · ·, ·) }, world)

/-- The entries of the engines of this library. `check` checks templates with tags. -/
def builtinEntries (check : List Char → Template.Verdict) : List (EngineEntry σ) :=
  [builtinEntry Tagged.descriptor (Tagged.generate check),
    builtinEntry Literal.descriptor Literal.generate]

/-- Registers the engines of this library, except where an identifier is taken. -/
def registerBuiltin (registry : Registry σ) (check : List Char → Template.Verdict) : Registry σ :=
  (builtinEntries check).foldl registerIfNew registry

end Registry

end TemplateInspector
