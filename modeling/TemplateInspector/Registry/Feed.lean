/-!
# Feeds of events

A feed keeps what was published in order. A reader holds a position in it and sees what was
published since it subscribed, unless it falls too far behind: then it first learns how many events
it has lost and goes on with the newest ones.
-/

namespace TemplateInspector

/-- The number of events that a feed keeps for slow readers. -/
def feedCapacity : Nat := 64

/-- The events that were published, in order. -/
structure Feed (ε : Type) where
  /-- The events. -/
  events : List ε := []
  deriving DecidableEq, Repr

/-- A reader of a feed: the number of events that are behind it. -/
structure Subscription where
  /-- The position of the next event to be read. -/
  next : Nat
  deriving DecidableEq, Repr

/-- What a reader receives. -/
inductive Received (ε : Type)
  /-- The next event. -/
  | event (event : ε)
  /-- Notice that this many events are lost. -/
  | lagged (count : Nat)
  deriving DecidableEq, Repr

namespace Feed

/-- Publishes an event. -/
def publish (feed : Feed ε) (event : ε) : Feed ε :=
  ⟨feed.events ++ [event]⟩

/-- A reader of what will be published from now on. -/
def subscribe (feed : Feed ε) : Subscription :=
  ⟨feed.events.length⟩

/-- The position of the oldest event that is still kept. -/
def oldest (feed : Feed ε) : Nat :=
  feed.events.length - feedCapacity

/-- What a reader receives next, with its new position; nothing if it has read everything. -/
def receive (feed : Feed ε) (reader : Subscription) : Option (Received ε × Subscription) :=
  if reader.next < feed.oldest then
    some (.lagged (feed.oldest - reader.next), ⟨feed.oldest⟩)
  else
    feed.events[reader.next]?.map fun event => (.event event, ⟨reader.next + 1⟩)

/-- Everything that a reader has to receive. -/
def receiveAll (feed : Feed ε) (reader : Subscription) : List (Received ε) × Subscription :=
  let lost := if reader.next < feed.oldest then [.lagged (feed.oldest - reader.next)] else []
  let start := max reader.next feed.oldest
  (lost ++ (feed.events.drop start).map .event, ⟨max start feed.events.length⟩)

end Feed

end TemplateInspector
