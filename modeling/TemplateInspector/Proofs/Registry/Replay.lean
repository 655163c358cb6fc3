import TemplateInspector.Proofs.Registry.Validity

/-!
# Replaying the events of a registry

A subscriber keeps a list of identifiers of its own: what is added goes to its end, what is removed
is deleted, and a source that could not be loaded changes nothing. As long as the subscriber does
not fall further behind than the feed keeps, its list is the one that the registry had at the last
event it has received. The registered engines stand in the order of their latest registrations.
-/

namespace TemplateInspector

variable {σ : Type}

/-! ## Events and identifiers -/

namespace RegistryEvent

/-- What an event makes of a list of identifiers. -/
def apply (ids : List String) : RegistryEvent → List String
  | added id => ids ++ [id]
  | removed id => ids.erase id
  | discoveryFailed _ => ids

/-- What events make of a list of identifiers, one after another. -/
def replay (ids : List String) (events : List RegistryEvent) : List String :=
  events.foldl apply ids

/-- The identifier under which an engine was registered, if that is what happened. -/
def added? : RegistryEvent → Option String
  | added id => some id
  | removed _ | discoveryFailed _ => none

/-- The source that could not be loaded, if that is what happened. -/
def failure? : RegistryEvent → Option DiscoveryError
  | discoveryFailed error => some error
  | added _ | removed _ => none

end RegistryEvent

/-- The place of the latest occurrence of an identifier in a log, counted from one, or zero if there
is none. -/
def latest (log : List String) (id : String) : Nat :=
  log.length - log.reverse.idxOf id

theorem latest_le (log : List String) (id : String) : latest log id ≤ log.length :=
  Nat.sub_le ..

theorem latest_concat_self (log : List String) (id : String) :
    latest (log ++ [id]) id = log.length + 1 := by
  simp [latest]

theorem latest_concat_of_ne (log : List String) {id other : String} (h : other ≠ id) :
    latest (log ++ [id]) other = latest log other := by
  simp [latest, List.idxOf_cons_ne _ h.symm]

/-- Identifiers that stand in the order of their latest occurrences in a log. -/
structure InOrderOf (log ids : List String) : Prop where
  /-- They occur in the log. -/
  mem : ∀ id ∈ ids, id ∈ log
  /-- Each one occurs last before the next one does. -/
  pairwise : ids.Pairwise fun a b => latest log a < latest log b

namespace InOrderOf

/-- Identifiers in an order are distinct. -/
theorem nodup {log ids : List String} (h : InOrderOf log ids) : ids.Nodup :=
  h.pairwise.imp fun hlt heq => absurd (heq ▸ hlt) (Nat.lt_irrefl _)

/-- Identifiers may be left out. -/
theorem sublist {log ids fewer : List String} (h : InOrderOf log ids) (hfewer : fewer.Sublist ids) :
    InOrderOf log fewer :=
  ⟨fun id hid => h.mem id (hfewer.subset hid), h.pairwise.sublist hfewer⟩

/-- A new identifier comes last. -/
theorem concat {log ids : List String} (h : InOrderOf log ids) {id : String} (hid : id ∉ ids) :
    InOrderOf (log ++ [id]) (ids ++ [id]) := by
  have hne (other : String) (hother : other ∈ ids) : other ≠ id := fun heq => hid (heq ▸ hother)
  refine ⟨?_, List.pairwise_append.mpr ⟨?_, List.pairwise_singleton .., ?_⟩⟩
  · intro other hother
    rcases List.mem_append.mp hother with hold | hnew
    · exact List.mem_append_left _ (h.mem other hold)
    · exact List.mem_append_right _ hnew
  · refine h.pairwise.imp_of_mem fun {a b} ha hb hlt => ?_
    rwa [latest_concat_of_ne log (hne a ha), latest_concat_of_ne log (hne b hb)]
  · intro other hother new hnew
    rw [List.mem_singleton.mp hnew, latest_concat_self, latest_concat_of_ne log (hne other hother)]
    exact Nat.lt_succ_of_le (latest_le ..)

end InOrderOf

/-! ## Changes of a registry -/

namespace Registry

/-- What can happen to a registry, with the event that tells of it. -/
inductive Change (registry : Registry σ) : RegistryEvent → Registry σ → Prop
  /-- An engine is registered under an identifier that is free. -/
  | added {entry : EngineEntry σ} (h : entry.id ∉ registry.ids) :
      Change registry (.added entry.id) { registry with
        entries := registry.entries ++ [entry]
        feed := registry.feed.publish (.added entry.id) }
  /-- An engine is removed. -/
  | removed {id : String} (h : id ∈ registry.ids) :
      Change registry (.removed id) { registry with
        entries := registry.entries.eraseP fun entry => entry.id == id
        feed := registry.feed.publish (.removed id) }
  /-- A source could not be loaded. -/
  | failed (error : DiscoveryError) :
      Change registry (.discoveryFailed error) (registry.reportFailure error)

/-- What happened to a registry, with the events that tell of it. -/
inductive Changes : Registry σ → List RegistryEvent → Registry σ → Prop
  /-- Nothing. -/
  | nothing (registry : Registry σ) : Changes registry [] registry
  /-- A first change and what came after it. -/
  | cons {registry next last : Registry σ} {event : RegistryEvent} {events : List RegistryEvent}
      (first : Change registry event next) (rest : Changes next events last) :
      Changes registry (event :: events) last

/-- A change is published. -/
theorem Change.feed {registry next : Registry σ} {event : RegistryEvent}
    (h : Change registry event next) : next.feed.events = registry.feed.events ++ [event] := by
  cases h <;> rfl

/-- The event of a change tells what becomes of the identifiers. -/
theorem Change.ids {registry next : Registry σ} {event : RegistryEvent}
    (h : Change registry event next) : next.ids = event.apply registry.ids := by
  cases h with
  | added => simp [Registry.ids, RegistryEvent.apply]
  | failed => rfl
  | @removed id =>
    simp only [Registry.ids, RegistryEvent.apply, List.erase_eq_eraseP', List.eraseP_map]
    rfl

/-- A change keeps the failures that were reported and adds the one that it reports. -/
theorem Change.diagnostics {registry next : Registry σ} {event : RegistryEvent}
    (h : Change registry event next) :
    next.diagnostics = registry.diagnostics ++ event.failure?.toList := by
  cases h with
  | added | removed => exact (List.append_nil _).symm
  | failed => rfl

/-- A change keeps the identifiers in the order of their latest registrations. -/
theorem Change.inOrderOf {registry next : Registry σ} {event : RegistryEvent}
    (h : Change registry event next) {log : List String} (hlog : InOrderOf log registry.ids) :
    InOrderOf (log ++ event.added?.toList) next.ids := by
  rw [h.ids]
  cases h with
  | added hfree => exact hlog.concat hfree
  | removed =>
    rw [RegistryEvent.added?, Option.toList_none, List.append_nil]
    exact hlog.sublist List.erase_sublist
  | failed =>
    rw [RegistryEvent.added?, Option.toList_none, List.append_nil]
    exact hlog

namespace Changes

variable {registry next last : Registry σ} {events more : List RegistryEvent}

theorem trans (h : Changes registry events next) (h' : Changes next more last) :
    Changes registry (events ++ more) last := by
  induction h with
  | nothing => exact h'
  | cons first _ ih => exact .cons first (ih h')

/-- All changes are published, in order. -/
theorem feed (h : Changes registry events last) :
    last.feed.events = registry.feed.events ++ events := by
  induction h with
  | nothing => exact (List.append_nil _).symm
  | cons first _ ih => rw [ih, first.feed, List.append_assoc, List.singleton_append]

/-- Replaying the events gives the identifiers. -/
theorem ids (h : Changes registry events last) :
    last.ids = RegistryEvent.replay registry.ids events := by
  induction h with
  | nothing => rfl
  | cons first _ ih => rw [ih, first.ids]; rfl

/-- The failures that were reported are kept, in order. -/
theorem diagnostics (h : Changes registry events last) :
    last.diagnostics = registry.diagnostics ++ events.filterMap RegistryEvent.failure? := by
  induction h with
  | nothing => exact (List.append_nil _).symm
  | @cons _ _ _ event _ first _ ih =>
    rw [ih, first.diagnostics, List.append_assoc]
    cases hfailure : event.failure? <;> simp [hfailure]

/-- The identifiers stay in the order of their latest registrations. -/
theorem inOrderOf (h : Changes registry events last) {log : List String}
    (hlog : InOrderOf log registry.ids) :
    InOrderOf (log ++ events.filterMap RegistryEvent.added?) last.ids := by
  induction h generalizing log with
  | nothing => simpa using hlog
  | @cons _ _ _ event _ first _ ih =>
    have hrest := ih (first.inOrderOf hlog)
    rw [List.append_assoc] at hrest
    cases hadded : event.added? <;> simpa [hadded] using hrest

end Changes

/-! ## Calls -/

/-- Registering an engine is refused exactly if its identifier is taken; else the engine is added.
-/
theorem register_cases (registry : Registry σ) (entry : EngineEntry σ) :
    entry.id ∈ registry.ids ∧
        registry.register entry = .error (.duplicateEngine entry.id) ∨
      entry.id ∉ registry.ids ∧
        ∃ next, registry.register entry = .ok next ∧ Change registry (.added entry.id) next := by
  cases hcontains : registry.contains entry.id with
  | true =>
    exact .inl ⟨contains_iff_mem_ids.mp hcontains, by simp only [register, hcontains, ite_true]⟩
  | false =>
    have hfree : entry.id ∉ registry.ids := by
      rw [← contains_iff_mem_ids, hcontains]
      exact Bool.false_ne_true
    exact .inr ⟨hfree, _, by simp only [register, hcontains, Bool.false_eq_true, ite_false],
      .added hfree⟩

/-- Removing an engine does nothing exactly if it is not registered; else the engine is removed. -/
theorem unregister_cases (registry : Registry σ) (id : String) :
    id ∉ registry.ids ∧ registry.unregister id = (none, registry) ∨
      id ∈ registry.ids ∧ Change registry (.removed id) (registry.unregister id).2 := by
  have hcontains : registry.contains id = true ↔ id ∈ registry.ids := contains_iff_mem_ids
  rw [contains] at hcontains
  cases hget : registry.get? id with
  | none =>
    refine .inl ⟨?_, by simp only [unregister, hget]⟩
    rw [← hcontains, hget]
    exact Bool.false_ne_true
  | some entry =>
    rw [hget] at hcontains
    have hid := hcontains.mp rfl
    refine .inr ⟨hid, ?_⟩
    simp only [unregister, hget]
    exact .removed hid

/-- A call that may change a registry. -/
inductive Call (σ : Type)
  /-- Registers an engine. -/
  | register (entry : EngineEntry σ)
  /-- Registers the engines of this library, with a check of templates. -/
  | registerBuiltin (check : List Char → Template.Verdict)
  /-- Removes an engine. -/
  | unregister (id : String)
  /-- Records a source that could not be loaded. -/
  | reportFailure (error : DiscoveryError)

/-- The failure that a call reports, if it reports one. -/
def Call.failure? : Call σ → Option DiscoveryError
  | reportFailure error => some error
  | register _ | registerBuiltin _ | unregister _ => none

/-- Makes a call. -/
def make (registry : Registry σ) : Call σ → Registry σ
  | .register entry => registry.registerIfNew entry
  | .registerBuiltin check => registry.registerBuiltin check
  | .unregister id => (registry.unregister id).2
  | .reportFailure error => registry.reportFailure error

/-- Makes calls one after another. -/
def makeAll (registry : Registry σ) (calls : List (Call σ)) : Registry σ :=
  calls.foldl make registry

/-- The identifiers of those of some engines that are registered if that is tried one after
another. -/
def accepted (registry : Registry σ) : List (EngineEntry σ) → List String
  | [] => []
  | entry :: others =>
    match registry.register entry with
    | .ok next => entry.id :: next.accepted others
    | .error _ => registry.accepted others

/-- The identifiers that a call succeeds to register, in order. -/
def registered (registry : Registry σ) : Call σ → List String
  | .register entry => registry.accepted [entry]
  | .registerBuiltin check => registry.accepted (builtinEntries check)
  | .unregister _ | .reportFailure _ => []

/-- The identifiers that calls succeed to register, in order and with repetitions. -/
def registrations (registry : Registry σ) : List (Call σ) → List String
  | [] => []
  | call :: calls => registry.registered call ++ (registry.make call).registrations calls

/-- Registering engines one after another adds those that are accepted. -/
theorem changes_registerAll (registry : Registry σ) (entries : List (EngineEntry σ)) :
    Changes registry ((registry.accepted entries).map .added)
      (entries.foldl registerIfNew registry) := by
  induction entries generalizing registry with
  | nil => exact .nothing registry
  | cons entry others ih =>
    rcases registry.register_cases entry with ⟨-, hrefused⟩ | ⟨-, next, haccepted, hchange⟩
    · simp only [accepted, List.foldl_cons, registerIfNew, hrefused]
      exact ih registry
    · simp only [accepted, List.foldl_cons, registerIfNew, haccepted]
      exact .cons hchange (ih next)

/-- What a call changes: the events tell of the engines that it registers and of the failure that it
reports. -/
theorem exists_changes_make (registry : Registry σ) (call : Call σ) :
    ∃ events, Changes registry events (registry.make call) ∧
      events.filterMap RegistryEvent.added? = registry.registered call ∧
      events.filterMap RegistryEvent.failure? = call.failure?.toList := by
  have hadded (ids : List String) :
      (ids.map RegistryEvent.added).filterMap RegistryEvent.added? = ids ∧
        (ids.map RegistryEvent.added).filterMap RegistryEvent.failure? = [] := by
    constructor <;> induction ids <;> simp_all [RegistryEvent.added?, RegistryEvent.failure?]
  cases call with
  | register entry => exact ⟨_, registry.changes_registerAll [entry], hadded _⟩
  | registerBuiltin check =>
    exact ⟨_, registry.changes_registerAll (builtinEntries check), hadded _⟩
  | reportFailure error => exact ⟨_, .cons (.failed error) (.nothing _), rfl, rfl⟩
  | unregister id =>
    rcases registry.unregister_cases id with ⟨-, hnothing⟩ | ⟨-, hchange⟩
    · refine ⟨[], ?_, rfl, rfl⟩
      simp only [make, hnothing]
      exact .nothing registry
    · exact ⟨_, .cons hchange (.nothing _), rfl, rfl⟩

/-- What calls change: the events tell of the engines that they register and of the failures that
they report. -/
theorem exists_changes_makeAll (registry : Registry σ) (calls : List (Call σ)) :
    ∃ events, Changes registry events (registry.makeAll calls) ∧
      events.filterMap RegistryEvent.added? = registry.registrations calls ∧
      events.filterMap RegistryEvent.failure? = calls.filterMap Call.failure? := by
  induction calls generalizing registry with
  | nil => exact ⟨[], .nothing registry, rfl, rfl⟩
  | cons call calls ih =>
    obtain ⟨events, hchanges, hadded, hfailed⟩ := registry.exists_changes_make call
    obtain ⟨more, hmore, hmoreAdded, hmoreFailed⟩ := ih (registry.make call)
    refine ⟨events ++ more, hchanges.trans hmore, ?_, ?_⟩
    · rw [List.filterMap_append, hadded, hmoreAdded, registrations]
    · rw [List.filterMap_append, hfailed, hmoreFailed]
      cases hfailure : call.failure? <;> simp [hfailure]

/-- Registered engines decide alone what a call makes of them. -/
theorem entries_make_congr {registry other : Registry σ} (h : registry.entries = other.entries)
    (call : Call σ) : (registry.make call).entries = (other.make call).entries := by
  have hregister {a b : Registry σ} (h : a.entries = b.entries) (entry : EngineEntry σ) :
      (a.registerIfNew entry).entries = (b.registerIfNew entry).entries := by
    have hcontains : a.contains entry.id = b.contains entry.id := by
      simp only [contains, get?, h]
    simp only [registerIfNew, register, hcontains]
    cases b.contains entry.id <;> simp [h]
  cases call with
  | register entry => exact hregister h entry
  | registerBuiltin check => exact hregister (hregister h _) _
  | reportFailure error => exact h
  | unregister id =>
    simp only [make, unregister, get?, h]
    split
    · rfl
    · exact h

/-- Reports of sources that could not be loaded do not affect the engines. -/
theorem entries_makeAll_of_reports {registry other : Registry σ}
    (h : registry.entries = other.entries) (calls : List (Call σ)) :
    (registry.makeAll calls).entries =
      (other.makeAll (calls.filter fun call => call.failure?.isNone)).entries := by
  induction calls generalizing registry other with
  | nil => exact h
  | cons call calls ih =>
    cases hfailure : call.failure? with
    | none =>
      rw [List.filter_cons_of_pos (by simp [hfailure])]
      exact ih (entries_make_congr h call)
    | some error =>
      cases call with
      | register entry | registerBuiltin | unregister id => simp [Call.failure?] at hfailure
      | reportFailure error =>
        rw [List.filter_cons_of_neg (by simp [hfailure])]
        have hreported : (registry.reportFailure error).entries = other.entries := h
        exact ih hreported

end Registry

/-! ## Subscribers -/

/-- A registry with a subscriber and what that has received. -/
structure Watch (σ : Type) where
  /-- The registry. -/
  registry : Registry σ
  /-- The subscriber's place in the feed. -/
  reader : Subscription
  /-- What the subscriber has received, in order. -/
  received : List (Received RegistryEvent) := []

/-- What can happen while a registry is watched. -/
inductive Watch.Move (σ : Type)
  /-- A call is made. -/
  | call (call : Registry.Call σ)
  /-- The subscriber receives what is next, if there is anything. -/
  | receive

namespace Watch

/-- The call that is made, if one is. -/
def Move.call? : Move σ → Option (Registry.Call σ)
  | .call made => some made
  | .receive => none

/-- A registry with a new subscriber. -/
def start (registry : Registry σ) : Watch σ where
  registry
  reader := registry.subscribe

/-- The subscriber receives what is next, if there is anything. -/
def receive (w : Watch σ) : Watch σ :=
  match w.registry.feed.receive w.reader with
  | some (received, reader) => { w with reader, received := w.received ++ [received] }
  | none => w

/-- Makes a move. -/
def step (w : Watch σ) : Move σ → Watch σ
  | .call call => { w with registry := w.registry.make call }
  | .receive => w.receive

/-- Makes moves one after another. -/
def run (w : Watch σ) (moves : List (Move σ)) : Watch σ :=
  moves.foldl step w

/-- The number of events that the subscriber has still to receive. -/
def behind (w : Watch σ) : Nat :=
  w.registry.feed.events.length - w.reader.next

/-- Whether the subscriber never falls further behind than the feed keeps. -/
def keepsUp (w : Watch σ) : List (Move σ) → Bool
  | [] => w.behind ≤ feedCapacity
  | move :: moves => w.behind ≤ feedCapacity && (w.step move).keepsUp moves

/-- The subscriber has received just the first ones of the events since it subscribed to `first`,
and the others are waiting. -/
structure Follows (first : Registry σ) (seen waiting : List RegistryEvent) (w : Watch σ) :
    Prop where
  /-- The events tell all that has changed. -/
  changes : Registry.Changes first (seen ++ waiting) w.registry
  /-- The subscriber's place is behind those that it has received. -/
  next : w.reader.next = first.feed.events.length + seen.length
  /-- It has received these. -/
  received : w.received = seen.map .event

variable {first : Registry σ} {seen waiting : List RegistryEvent} {w : Watch σ}

theorem follows_start (registry : Registry σ) : (start registry).Follows registry [] [] :=
  ⟨.nothing registry, rfl, rfl⟩

/-- The events from the subscriber's place on are those that are waiting. -/
theorem Follows.drop (h : w.Follows first seen waiting) :
    w.registry.feed.events.drop w.reader.next = waiting := by
  rw [h.changes.feed, h.next, ← List.append_assoc, ← List.length_append, List.drop_left]

/-- A subscriber that is not too far behind has lost nothing. -/
theorem oldest_le (h : w.behind ≤ feedCapacity) : w.registry.feed.oldest ≤ w.reader.next := by
  unfold behind at h
  unfold Feed.oldest
  omega

/-- What a subscriber has to receive are the events that are waiting. -/
theorem Follows.receiveAll (h : w.Follows first seen waiting) (hbehind : w.behind ≤ feedCapacity) :
    (w.registry.feed.receiveAll w.reader).1 = waiting.map .event := by
  have holdest := oldest_le hbehind
  simp only [Feed.receiveAll, Nat.not_lt.mpr holdest, ite_false, List.nil_append,
    Nat.max_eq_left holdest, h.drop]

/-- The next event to be received is the first one that is waiting. -/
theorem Follows.receive? (h : w.Follows first seen waiting) (hbehind : w.behind ≤ feedCapacity) :
    w.registry.feed.receive w.reader =
      waiting.head?.map fun event => (.event event, ⟨w.reader.next + 1⟩) := by
  simp only [Feed.receive, Nat.not_lt.mpr (oldest_le hbehind), ite_false]
  rw [← h.drop, List.head?_drop]

/-- A subscriber that receives what is next has received the first one of the waiting events. -/
theorem Follows.receive (h : w.Follows first seen waiting) (hbehind : w.behind ≤ feedCapacity) :
    ∃ seen waiting, w.receive.Follows first seen waiting := by
  have hreceive := h.receive? hbehind
  cases waiting with
  | nil =>
    refine ⟨seen, [], ?_⟩
    unfold Watch.receive
    rw [hreceive]
    exact h
  | cons event others =>
    refine ⟨seen ++ [event], others, ?_⟩
    unfold Watch.receive
    rw [hreceive]
    refine ⟨?_, ?_, ?_⟩
    · rw [List.append_assoc, List.singleton_append]
      exact h.changes
    · change w.reader.next + 1 = _
      rw [h.next, List.length_append, List.length_singleton, Nat.add_assoc]
    · change w.received ++ [.event event] = _
      rw [h.received, List.map_append, List.map_singleton]

/-- A move leaves a subscriber that is not too far behind with what it has to receive. -/
theorem Follows.step (h : w.Follows first seen waiting) (hbehind : w.behind ≤ feedCapacity)
    (move : Move σ) : ∃ seen waiting, (w.step move).Follows first seen waiting := by
  cases move with
  | receive => exact h.receive hbehind
  | call call =>
    obtain ⟨events, hchanges, -⟩ := w.registry.exists_changes_make call
    refine ⟨seen, waiting ++ events, ?_, h.next, h.received⟩
    rw [← List.append_assoc]
    exact h.changes.trans hchanges

/-- A subscriber that keeps up has received, or has to receive, all that has changed. -/
theorem Follows.run (h : w.Follows first seen waiting) {moves : List (Move σ)}
    (hkeeps : w.keepsUp moves = true) :
    (∃ seen waiting, (w.run moves).Follows first seen waiting) ∧
      (w.run moves).behind ≤ feedCapacity := by
  induction moves generalizing w seen waiting with
  | nil => exact ⟨⟨seen, waiting, h⟩, of_decide_eq_true hkeeps⟩
  | cons move moves ih =>
    obtain ⟨hbehind, hrest⟩ := Bool.and_eq_true_iff.mp hkeeps
    obtain ⟨seen, waiting, hnext⟩ := h.step (of_decide_eq_true hbehind) move
    exact ih hnext hrest

/-- The registry of a run has been made by the calls in it. -/
theorem registry_run (w : Watch σ) (moves : List (Move σ)) :
    (w.run moves).registry = w.registry.makeAll (moves.filterMap Move.call?) := by
  induction moves generalizing w with
  | nil => rfl
  | cons move moves ih =>
    cases move with
    | call call => exact ih _
    | receive =>
      have hsame : w.receive.registry = w.registry := by
        unfold receive
        split <;> rfl
      refine (ih w.receive).trans ?_
      rw [hsame]
      rfl

/-- Whatever calls were made before a subscriber came and after: if it keeps up, it receives the
events themselves, and replaying those that it has received and those that it has still to receive
turns the identifiers of the time when it came into those of now; with nothing left to receive, what
it has received does. The identifiers are distinct and in the order of their latest successful
registrations. An engine whose identifier is taken is refused, and an engine that is not registered
cannot be removed; then nothing at all changes, so nothing is published. Lookups agree with the
entries. The diagnostics are the failures that were reported, in order, and without these reports
the entries would be the same. -/
theorem replay_received (before : List (Registry.Call σ)) (moves : List (Move σ)) :
    let subscribed := ({} : Registry σ).makeAll before
    let last := (start subscribed).run moves
    let registry := last.registry
    let calls := before ++ moves.filterMap Move.call?
    ((start subscribed).keepsUp moves = true →
      ∃ seen waiting, last.received = seen.map .event ∧
        (registry.feed.receiveAll last.reader).1 = waiting.map .event ∧
        RegistryEvent.replay subscribed.ids (seen ++ waiting) = registry.ids ∧
        (registry.feed.receive last.reader = none →
          RegistryEvent.replay subscribed.ids seen = registry.ids)) ∧
      registry.ids.Nodup ∧
      InOrderOf (Registry.registrations {} calls) registry.ids ∧
      (∀ entry, entry.id ∈ registry.ids →
        registry.register entry = .error (.duplicateEngine entry.id) ∧
          registry.make (.register entry) = registry) ∧
      (∀ id, id ∉ registry.ids → registry.unregister id = (none, registry) ∧
        registry.make (.unregister id) = registry) ∧
      (∀ id entry, registry.get? id = some entry ↔ entry ∈ registry.entries ∧ entry.id = id) ∧
      (∀ id, registry.contains id = true ↔ id ∈ registry.ids) ∧
      registry.first? = registry.entries[0]? ∧ registry.size = registry.entries.length ∧
      registry.diagnostics = calls.filterMap Registry.Call.failure? ∧
      registry.entries =
        (({} : Registry σ).makeAll (calls.filter fun call => call.failure?.isNone)).entries := by
  intro subscribed last registry calls
  have hregistry : registry = ({} : Registry σ).makeAll calls := by
    rw [Registry.makeAll, List.foldl_append]
    exact registry_run _ _
  obtain ⟨events, hchanges, hadded, hfailed⟩ := ({} : Registry σ).exists_changes_makeAll calls
  rw [← hregistry] at hchanges
  have horder : InOrderOf (Registry.registrations {} calls) registry.ids := by
    have hnone : InOrderOf [] ({} : Registry σ).ids := ⟨by simp [Registry.ids], .nil⟩
    simpa [hadded] using hchanges.inOrderOf hnone
  refine ⟨?_, horder.nodup, horder, ?_, ?_, ?_, fun id => Registry.contains_iff_mem_ids,
    List.head?_eq_getElem?, rfl, ?_, ?_⟩
  · intro hkeeps
    obtain ⟨⟨seen, waiting, hfollows⟩, hbehind⟩ := (follows_start subscribed).run hkeeps
    have hids := hfollows.changes.ids
    refine ⟨seen, waiting, hfollows.received, hfollows.receiveAll hbehind, hids.symm,
      fun hdone => ?_⟩
    rw [hfollows.receive? hbehind, Option.map_eq_none_iff, List.head?_eq_none_iff] at hdone
    rw [hdone, List.append_nil] at hids
    exact hids.symm
  · intro entry hentry
    rcases registry.register_cases entry with ⟨-, hrefused⟩ | ⟨hfree, -⟩
    · exact ⟨hrefused, by simp only [Registry.make, Registry.registerIfNew, hrefused]⟩
    · contradiction
  · intro id hid
    rcases registry.unregister_cases id with ⟨-, hnothing⟩ | ⟨hmem, -⟩
    · exact ⟨hnothing, by simp only [Registry.make, hnothing]⟩
    · contradiction
  · intro id entry
    constructor
    · intro hentry
      exact ⟨List.mem_of_find?_eq_some hentry, Registry.id_of_get? hentry⟩
    · rintro ⟨hentry, rfl⟩
      exact Registry.get?_of_mem horder.nodup hentry
  · simpa [hfailed] using hchanges.diagnostics
  · rw [hregistry]
    exact Registry.entries_makeAll_of_reports rfl calls

/-- An engine of the library is removed and registered again while a subscriber lags behind. -/
theorem replay_received_again :
    let before : List (Registry.Call Unit) := [.registerBuiltin fun _ => .accepted]
    let moves : List (Move Unit) :=
      [.call (.unregister "tera"), .receive, .call (.registerBuiltin fun _ => .accepted),
        .call (.reportFailure ⟨"plugins/broken", "bad manifest"⟩), .call (.unregister "ghost"),
        .receive]
    let subscribed := ({} : Registry Unit).makeAll before
    let last := (start subscribed).run moves
    (start subscribed).keepsUp moves = true ∧ subscribed.ids = ["tera", "literal"] ∧
      last.registry.ids = ["literal", "tera"] ∧
      ∃ seen waiting, last.received = seen.map .event ∧
        (last.registry.feed.receiveAll last.reader).1 = waiting.map .event ∧
        RegistryEvent.replay subscribed.ids (seen ++ waiting) = last.registry.ids ∧
        (last.registry.feed.receive last.reader = none →
          RegistryEvent.replay subscribed.ids seen = last.registry.ids) := by
  intro before moves subscribed last
  have hkeeps : (start subscribed).keepsUp moves = true := by decide +kernel
  have hbefore : subscribed.ids = ["tera", "literal"] := by decide +kernel
  have hafter : last.registry.ids = ["literal", "tera"] := by decide +kernel
  -- From here on the run is not to be computed.
  clear_value before moves
  exact ⟨hkeeps, hbefore, hafter, (replay_received before moves).1 hkeeps⟩

end Watch

end TemplateInspector
