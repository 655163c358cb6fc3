import TemplateInspector.Engine.Basic

/-!
# Engines and their entries

An engine may act on a world of type `σ` when it is built and when it runs. An entry pairs what is
known of an engine with a way to build it; the engine is built when it is first asked for and kept
from then on. A failed build is not kept, so the next request tries again.
-/

namespace TemplateInspector

/-- Where an engine comes from. -/
inductive EngineOrigin
  /-- It is part of this library. -/
  | builtin
  /-- It is a program that a plugin names. -/
  | plugin
  /-- It follows a script. -/
  | script
  deriving DecidableEq, Repr

/-- A template compiler. -/
structure Engine (σ : Type) where
  /-- Where the engine comes from. -/
  origin : EngineOrigin
  /-- The host that the engine makes for a generation, to be configured by whoever asks for it. -/
  createHost : Host := {}
  /-- That host names no language yet. -/
  unconfigured : createHost.language = none := by exact Host.language_fresh
  /-- Compiles a template for a host. -/
  generate : String → Host → σ → Outcome × σ

/-- An engine that may be registered. -/
structure EngineEntry (σ : Type) where
  /-- What is known of the engine. -/
  descriptor : EngineDescriptor
  /-- Builds the engine. -/
  build : σ → Except EngineError (Engine σ) × σ
  /-- The engine, once it has been built. -/
  built : Option (Engine σ) := none

/-- What a request for the engine of an entry comes to. -/
inductive Instantiation (σ : Type)
  /-- The engine had been built before. -/
  | kept (engine : Engine σ)
  /-- The engine has been built now. -/
  | built (engine : Engine σ)
  /-- The engine could not be built. -/
  | failed (error : EngineError)

/-- The engine that a request yields, or why there is none. -/
def Instantiation.engine : Instantiation σ → Except EngineError (Engine σ)
  | .kept engine | .built engine => .ok engine
  | .failed error => .error error

namespace EngineEntry

/-- The identifier of an entry. -/
def id (entry : EngineEntry σ) : String :=
  entry.descriptor.id

/-- An entry whose engine is there from the start. -/
def eager (descriptor : EngineDescriptor) (engine : Engine σ) : EngineEntry σ where
  descriptor
  build world := (.ok engine, world)
  built := some engine

/-- Whether the engine of an entry has been built. -/
def isInstantiated (entry : EngineEntry σ) : Bool :=
  entry.built.isSome

/-- Asks for the engine of an entry, which is built if it has not been built before. -/
def request (entry : EngineEntry σ) (world : σ) : Instantiation σ × EngineEntry σ × σ :=
  match entry.built with
  | some engine => (.kept engine, entry, world)
  | none =>
    match entry.build world with
    | (.ok engine, world) => (.built engine, { entry with built := some engine }, world)
    | (.error error, world) => (.failed error, entry, world)

end EngineEntry

end TemplateInspector
