import TemplateInspector.Controller.Session

/-!
# The regeneration loop

The loop owns a session and serves three sources of work: commands in the order in which they were
sent, events of the registry, and the deadline of the debounce timer. After every step it publishes
a snapshot if that differs from the last one, and it publishes one before an engine runs. Which
source is served when several are ready is up to the caller.
-/

namespace TemplateInspector

/-- What the loop can be told to do. -/
inductive Command
  | setText (text : String)
  | selectEngine (id : Option String)
  | selectLanguage (language : Option Language)
  | setDesignTime (designTime : Bool)
  /-- Generate now. -/
  | flush
  /-- Stop. -/
  | shutdown
  deriving DecidableEq, Repr

/-- Why presentation and loop do not work together. -/
inductive CompositionError
  /-- The loop has stopped. -/
  | detached
  /-- The inspector could not be started. -/
  | startup (reason : String)
  deriving DecidableEq, Repr

/-- The text that reports a composition error. -/
def CompositionError.message : CompositionError → String
  | .detached => "regeneration loop is no longer running"
  | .startup reason => "failed to start inspector: " ++ reason

/-- What can be seen of a loop from outside, with the time at which it happened. -/
inductive LoopEvent
  /-- A snapshot was published. -/
  | published (time : Time) (snapshot : Snapshot)
  /-- An engine was run. -/
  | called (time : Time) (request : Request)
  deriving DecidableEq, Repr

/-- A source of work of a loop. -/
inductive WorkSource
  | command
  | event
  | deadline
  deriving DecidableEq, Repr

/-- A loop with its queue of commands. -/
structure Loop (σ : Type) where
  /-- The session that the loop owns. -/
  session : Session σ
  /-- The commands that have been sent and not served. -/
  inbox : List Command := []
  /-- The loop's reader of the registry's feed. -/
  reader : Subscription
  /-- The snapshot that was published last. -/
  published : Snapshot
  /-- The time. -/
  clock : Time := 0
  /-- Whether the loop has not stopped. -/
  running : Bool := true
  /-- What could be seen of the loop, in order. -/
  log : List LoopEvent := []

namespace Loop

/-- A loop that has just been started over a session. -/
def spawn (session : Session σ) : Loop σ where
  session
  reader := session.registry.subscribe
  published := session.snapshot

/-- Publishes a snapshot of the session, unless it is the same as the last one. -/
def publish (l : Loop σ) : Loop σ :=
  let next := l.session.snapshot
  if l.published.same next then l
  else { l with published := next, log := l.log ++ [.published l.clock next] }

/-- Runs a generation. The snapshot that shows it in flight is published before the engine runs. -/
def generate (l : Loop σ) : Loop σ :=
  match l.session.begin with
  | (session, none) => { l with session }
  | (session, some pending) =>
    let l := { l with session }.publish
    { l with
      session := l.session.complete pending l.clock
      log := l.log ++ [.called l.clock pending.request] }

/-- Carries a command out. A selection that is refused changes nothing. -/
def apply (l : Loop σ) : Command → Loop σ
  | .setText text => { l with session := (l.session.setText text l.clock).1 }
  | .selectEngine id =>
    match l.session.selectEngine id l.clock with
    | .ok (session, _) => { l with session }
    | .error _ => l
  | .selectLanguage language =>
    { l with session := (l.session.selectLanguage language l.clock).1 }
  | .setDesignTime designTime =>
    { l with session := (l.session.setDesignTime designTime l.clock).1 }
  | .flush => l.generate
  | .shutdown => { l with running := false }

/-- Serves the first command, if there is one. -/
def serveCommand (l : Loop σ) : Option (Loop σ) :=
  match l.inbox with
  | [] => none
  | command :: inbox =>
    let l := { l with inbox }.apply command
    some (if l.running then l.publish else l)

/-- Serves the next event of the registry, or the notice that events are lost, if there is one. -/
def serveEvent (l : Loop σ) : Option (Loop σ) :=
  (l.session.registry.feed.receive l.reader).map fun (_, reader) =>
    { l with reader, session := (l.session.registryChanged l.clock).1 }.publish

/-- Serves the deadline, if it has come. -/
def serveDeadline (l : Loop σ) : Option (Loop σ) :=
  if l.session.controller.timer.isDue l.clock then some l.generate.publish else none

/-- Serves one source of work, if it is ready and the loop is running. -/
def serve (l : Loop σ) (source : WorkSource) : Option (Loop σ) :=
  if !l.running then none
  else match source with
    | .command => l.serveCommand
    | .event => l.serveEvent
    | .deadline => l.serveDeadline

/-- Serves the first source of work that is ready: commands, then events, then the deadline. -/
def step (l : Loop σ) : Option (Loop σ) :=
  l.serve .command <|> l.serve .event <|> l.serve .deadline

/-- Makes at most `fuel` steps. -/
def steps : Nat → Loop σ → Loop σ
  | 0, l => l
  | fuel + 1, l =>
    match l.step with
    | some l => steps fuel l
    | none => l

/-- The number of commands and events that wait for the loop. -/
def backlog (l : Loop σ) : Nat :=
  l.inbox.length + (l.session.registry.feed.events.length - l.reader.next)

/-- Serves all work that is ready. A command or an event arms the timer at most once. -/
def settle (l : Loop σ) : Loop σ :=
  l.steps (2 * l.backlog + 2)

/-- Sends a command; a loop that has stopped takes none. -/
def send (l : Loop σ) (command : Command) : Except CompositionError (Loop σ) :=
  if l.running then .ok { l with inbox := l.inbox ++ [command] } else .error .detached

/-- Lets time pass up to `target` and serves the deadline when it comes. A deadline that is served
is not set again without further work, so one is enough. -/
def sleepUntil (l : Loop σ) (target : Time) : Loop σ :=
  let l := match l.session.controller.timer.deadline with
    | some deadline =>
      if deadline ≤ target then { l with clock := max l.clock deadline }.settle else l
    | none => l
  { l with clock := max l.clock target }.settle

/-- Lets time pass. -/
def sleep (l : Loop σ) (duration : Nat) : Loop σ :=
  l.sleepUntil (l.clock + duration)

/-- Stops the loop once its last handle is gone and it has served what was sent. -/
def detach (l : Loop σ) : Loop σ :=
  { l.settle with running := false }

end Loop

end TemplateInspector
