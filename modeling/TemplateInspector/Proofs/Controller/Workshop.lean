import TemplateInspector.Proofs.Controller.Requests
import TemplateInspector.Proofs.Registry.Stability

/-!
# Workshops

An engine is built when the first request for it arrives, and again only until a build succeeds.
Requests come from attempts at a generation, which a driver makes through several calls, and from
anyone who holds an entry, whether it is registered or not. In a workshop all of this happens in any
order, while entries are made, registered, removed and registered again.
-/

namespace TemplateInspector

variable {σ τ : Type}

/-- An element of a list stands between those before and after it, where it can be replaced or
removed. -/
theorem exists_eq_append_of_getElem? {l : List σ} {index : Nat} {a : σ} (h : l[index]? = some a) :
    ∃ before after, l = before ++ a :: after ∧ (∀ b, l.set index b = before ++ b :: after) ∧
      l.eraseIdx index = before ++ after := by
  obtain ⟨hindex, rfl⟩ := List.getElem?_eq_some_iff.mp h
  refine ⟨l.take index, l.drop (index + 1), ?_, fun b => ?_, List.eraseIdx_eq_take_drop_succ ..⟩
  · rw [List.getElem_cons_drop, List.take_append_drop]
  · rw [List.set_eq_take_append_cons_drop, if_pos hindex]

namespace Registry

/-- The entry that is found under an identifier stands between others, where it can be replaced or
removed. -/
theorem exists_eq_append_of_get? {registry : Registry σ} (h : registry.ids.Nodup)
    {entry : EngineEntry σ} (hentry : registry.get? entry.id = some entry) :
    ∃ before after, registry.entries = before ++ entry :: after ∧
      (∀ next : EngineEntry σ, next.id = entry.id →
        (registry.replace next).entries = before ++ next :: after) ∧
      (registry.unregister entry.id).2.entries = before ++ after := by
  obtain ⟨hid, before, after, hentries, hbefore⟩ := List.find?_eq_some_iff_append.mp hentry
  have hfront : ∀ other ∈ before, other.id ≠ entry.id := by simpa using hbefore
  have hback : ∀ other ∈ after, other.id ≠ entry.id := by
    rw [ids, hentries, List.map_append, List.map_cons] at h
    have hnot := (List.nodup_cons.mp (List.nodup_append.mp h).2.1).1
    exact fun other hother heq => hnot (heq ▸ List.mem_map_of_mem hother)
  refine ⟨before, after, hentries, fun next hnext => ?_, ?_⟩
  · have hkeep {others : List (EngineEntry σ)} (hne : ∀ other ∈ others, other.id ≠ entry.id) :
        others.map (fun other => if other.id == entry.id then next else other) = others := by
      have hsame : ∀ other ∈ others,
          (if other.id == entry.id then next else other) = id other :=
        fun other hother => if_neg (by simpa using hne other hother)
      rw [List.map_congr_left hsame, List.map_id]
    simp only [replace, hentries, List.map_append, List.map_cons, hnext, hkeep hfront, hkeep hback,
      beq_self_eq_true, if_true]
  · have hskip : ∀ other ∈ before, ¬(other.id == entry.id) = true := by simpa using hfront
    rw [entries_unregister, hentries, List.eraseP_append_right _ hskip]
    simp

end Registry

/-- A driven session, the entries that are at hand beside it, and the requests for engines. -/
structure Workshop (τ : Type) where
  /-- The driven session, with factories that record their calls. -/
  drive : Drive (Ledger τ)
  /-- The entries that are not registered. -/
  loose : List (EngineEntry (Ledger τ)) := []
  /-- The requests by the number of their entry, with their answers. -/
  requests : List (Nat × Except EngineError (Engine (Ledger τ))) := []

/-- What can happen in a workshop. -/
inductive Workshop.Move (τ : Type)
  /-- A lazy entry is made with a factory of its own. -/
  | create (descriptor : EngineDescriptor) (build : τ → Except EngineError (Engine τ) × τ)
  /-- An entry that is at hand is registered, if its identifier is free; else it stays at hand. -/
  | register (index : Nat)
  /-- An entry is removed from the registry, and is at hand. -/
  | unregister (id : String)
  /-- A source of engines could not be loaded. -/
  | reportFailure (error : DiscoveryError)
  /-- The engine of a registered entry is requested past the controller. -/
  | request (id : String)
  /-- The engine of an entry is requested that is not registered. -/
  | requestLoose (index : Nat)
  /-- A new controller takes the place of the old one. -/
  | attach (settings : ControllerSettings)
  /-- The session is driven. -/
  | operate (operation : Operation τ)

namespace Workshop

/-- The session that is driven. -/
def session (w : Workshop τ) : Session (Ledger τ) :=
  w.drive.session

/-- The world with the record of builds. -/
def ledger (w : Workshop τ) : Ledger τ :=
  w.session.world

/-- All entries that were made, whether they are registered or not. -/
def entries (w : Workshop τ) : List (EngineEntry (Ledger τ)) :=
  w.session.registry.entries ++ w.loose

/-- The workshop with another session. -/
def withSession (w : Workshop τ) (session : Session (Ledger τ)) : Workshop τ :=
  { w with drive := { w.drive with session } }

/-- A workshop at its start, without entries. -/
def start (settings : ControllerSettings) (emitters : EmitterTable) (world : τ) : Workshop τ where
  drive := .start settings {} emitters ⟨world, []⟩

/-- The entry that a move asks for its engine. -/
def asked? (w : Workshop τ) : Move τ → Option (EngineEntry (Ledger τ))
  | .request id => w.session.registry.get? id
  | .requestLoose index => w.loose[index]?
  | .operate operation => w.drive.asked? (operation.action w.ledger)
  | .create .. | .register _ | .unregister _ | .reportFailure _ | .attach _ => none

/-- What a move does. -/
def act (w : Workshop τ) : Move τ → Workshop τ
  | .create descriptor build =>
    { w with loose := Ledger.entry w.entries.length descriptor build :: w.loose }
  | .register index =>
    match w.loose[index]? with
    | none => w
    | some entry =>
      { w.withSession { w.session with registry := w.session.registry.registerIfNew entry } with
        loose :=
          if w.session.registry.contains entry.id then w.loose else w.loose.eraseIdx index }
  | .unregister id =>
    { w.withSession (w.session.unregister id).1 with
      loose := (w.session.registry.unregister id).1.toList ++ w.loose }
  | .reportFailure error =>
    w.withSession { w.session with registry := w.session.registry.reportFailure error }
  | .request id =>
    let (_, registry, world) := w.session.registry.instantiate id w.ledger
    w.withSession { w.session with registry, world }
  | .requestLoose index =>
    match w.loose[index]? with
    | none => w
    | some entry =>
      let (_, entry, world) := entry.request w.ledger
      { w.withSession { w.session with world } with loose := w.loose.set index entry }
  | .attach settings =>
    { w with drive := .start settings w.session.registry w.session.emitters w.ledger }
  | .operate operation => { w with drive := w.drive.step (operation.action w.ledger) }

/-- An entry that is registered is no longer loose. -/
theorem perm_register (w : Workshop τ) (index : Nat) :
    (w.act (.register index)).entries.Perm w.entries := by
  simp only [act]
  cases hindex : w.loose[index]? with
  | none => exact .refl _
  | some entry =>
    obtain ⟨before, after, hloose, -, herase⟩ := exists_eq_append_of_getElem? hindex
    simp only [entries, session, withSession, Registry.registerIfNew, Registry.register]
    by_cases htaken : w.drive.session.registry.contains entry.id = true
    · simp only [htaken, if_true]
      exact .refl _
    · simp only [htaken, Bool.false_eq_true, if_false, herase, List.append_assoc,
        List.singleton_append]
      rw [hloose]
      exact List.perm_middle.symm.append_left _

/-- Registering an entry is no change of the world. -/
theorem ledger_register (w : Workshop τ) (index : Nat) :
    (w.act (.register index)).ledger = w.ledger := by
  simp only [act]
  cases w.loose[index]? <;> rfl

/-- An entry that is removed is loose. -/
theorem perm_unregister {w : Workshop τ} (h : w.session.registry.ids.Nodup) (id : String) :
    (w.act (.unregister id)).entries.Perm w.entries := by
  simp only [act, entries, session, withSession, Session.unregister] at h ⊢
  cases hget : w.drive.session.registry.get? id with
  | none =>
    have hnothing : w.drive.session.registry.unregister id = (none, w.drive.session.registry) := by
      simp only [Registry.unregister, hget]
    rw [hnothing]
    exact .refl _
  | some entry =>
    cases Registry.id_of_get? hget
    obtain ⟨before, after, hentries, -, hremove⟩ := Registry.exists_eq_append_of_get? h hget
    have hremoved : (w.drive.session.registry.unregister entry.id).1 = some entry := by
      simp only [Registry.unregister, hget]
    rw [hremoved, hremove, hentries, List.append_assoc, List.append_assoc]
    exact List.perm_middle.append_left before

/-- A request past the controller asks the entry that it names. -/
theorem asks_request (w : Workshop τ) (id : String) :
    w.session.Asks (w.asked? (.request id)) (w.act (.request id)).session := by
  cases hget : w.session.registry.get? id with
  | none =>
    simp only [act, asked?, hget, Registry.instantiate]
    exact ⟨rfl, rfl⟩
  | some entry =>
    simp only [act, asked?, hget, Registry.instantiate_of_get? hget]
    exact ⟨rfl, rfl⟩

/-- No generation can begin: the template is empty, or a generation is in flight. -/
def Blocked (w : Workshop τ) : Prop :=
  w.session.controller.text = "" ∨ w.drive.held ≠ []

/-- The moves that ask no entry for its engine: all that is done to entries, to the registry and to
the inputs, the end of a generation, an attempt that cannot begin a generation, and a poll that
comes before the deadline or is not due for another reason. -/
def Idle (w : Workshop τ) : Move τ → Prop
  | .create .. | .register _ | .unregister _ | .reportFailure _ | .attach _ => True
  | .request _ | .requestLoose _ => False
  | .operate (.input ..) | .operate (.complete _) | .operate .abandon | .operate (.drift _) => True
  | .operate .begin | .operate (.flush _) => w.Blocked
  | .operate (.poll now) =>
    w.Blocked ∨
      (∃ deadline, w.session.controller.timer.deadline = some deadline ∧ now < deadline) ∨
      (w.session.poll now).2 = false

/-- An attempt that cannot begin a generation asks no entry. -/
theorem Blocked.asked?_eq_none {w : Workshop τ} (h : w.Blocked) :
    (if w.drive.held.isEmpty then w.session.asked? else none) = none := by
  rcases h with htext | hheld
  · rw [Session.asked?_eq_none_iff.mpr (.inl htext), ite_self]
  · rw [if_neg (mt List.isEmpty_iff.mp hheld)]

variable [Inhabited τ]

/-- The requests after an entry was asked, or none. -/
def noted (w : Workshop τ) (asked : Option (EngineEntry (Ledger τ))) :
    List (Nat × Except EngineError (Engine (Ledger τ))) :=
  w.requests ++ asked.toList.map fun entry => (entry.number, (entry.request w.ledger).1.engine)

/-- Makes a move, and notes the request with its answer if an entry is asked. -/
def step (w : Workshop τ) (move : Move τ) : Workshop τ :=
  { w.act move with requests := w.noted (w.asked? move) }

/-- Makes moves one after another. -/
def run (w : Workshop τ) (moves : List (Move τ)) : Workshop τ :=
  moves.foldl step w

/-- The answers to the requests for the engine of an entry, in order. -/
def answers (w : Workshop τ) (entry : EngineEntry (Ledger τ)) :
    List (Except EngineError (Engine (Ledger τ))) :=
  recordedUnder entry.number w.requests

/-- The calls of the factory of an entry, in order, with their success. -/
def builds (w : Workshop τ) (entry : EngineEntry (Ledger τ)) : List Bool :=
  recordedUnder entry.number w.ledger.builds

/-- The books of a workshop are kept: everything is accounted for, and what is held came from a
request. -/
structure Kept (w : Workshop τ) : Prop where
  /-- The controller tells one story, of what the driver holds as well. -/
  coherent : w.drive.Coherent
  /-- No two registered entries have the same identifier. -/
  ids : w.session.registry.ids.Nodup
  /-- Every entry has run its course. -/
  accounted : Accounted w.entries w.ledger.builds w.requests
  /-- The engine of a generation that is held was the answer to a request. -/
  held : ∀ pending ∈ w.drive.held, ∃ number, (number, .ok pending.engine) ∈ w.requests

/-- The books are kept at the start. -/
theorem kept_start (settings : ControllerSettings) (emitters : EmitterTable) (world : τ) :
    (start settings emitters world).Kept where
  coherent := Drive.coherent_start ..
  ids := List.nodup_nil
  accounted := .nil
  held := by simp [start, Drive.start]

namespace Kept

variable {w : Workshop τ}

/-- Registered entries are recorded. -/
theorem recorded (h : w.Kept) : ∀ entry ∈ w.session.registry.entries, entry.Recorded :=
  fun entry hentry => h.accounted.recorded entry (List.mem_append_left _ hentry)

/-- The engine of a generation that is held leaves the record of builds alone. -/
theorem discreet (h : w.Kept) : ∀ pending ∈ w.drive.held, pending.engine.Discreet := by
  intro pending hpending
  obtain ⟨number, hanswer⟩ := h.held pending hpending
  exact h.accounted.discreet _ hanswer pending.engine rfl

/-- An operation asks the entry that it names. -/
theorem asks_operate (h : w.Kept) (operation : Operation τ) :
    w.session.Asks (w.asked? (.operate operation)) (w.act (.operate operation)).session ∧
      ∀ pending ∈ (w.act (.operate operation)).drive.held,
        pending ∈ w.drive.held ∨ w.session.Supplies (w.asked? (.operate operation)) pending :=
  Drive.asks_step h.coherent h.recorded h.discreet operation

/-- If a registered entry is asked, or none, that is accounted for, and identifiers stay distinct.
-/
theorem account_asks (h : w.Kept) {asked : Option (EngineEntry (Ledger τ))}
    {s : Session (Ledger τ)} (hasks : w.session.Asks asked s)
    (hentry : ∀ entry ∈ asked, w.session.registry.get? entry.id = some entry) :
    Accounted (s.registry.entries ++ w.loose) s.world.builds (w.noted asked) ∧
      s.registry.ids.Nodup := by
  cases asked with
  | none =>
    have hregistry : s.registry = w.session.registry := hasks.registry
    have hbuilds : s.world.builds = w.ledger.builds := hasks.builds
    rw [hregistry, hbuilds, noted, Option.toList_none, List.map_nil, List.append_nil]
    exact ⟨h.accounted, h.ids⟩
  | some entry =>
    have hregistry : s.registry = w.session.registry.replace (entry.request w.ledger).2.1 :=
      hasks.registry
    have hbuilds : s.world.builds = (entry.request w.ledger).2.2.builds := hasks.builds
    obtain ⟨before, after, hentries, hreplace, -⟩ :=
      Registry.exists_eq_append_of_get? h.ids (hentry entry rfl)
    have hid : (entry.request w.ledger).2.1.id = entry.id :=
      congrArg EngineDescriptor.id (Registry.descriptor_request entry w.ledger)
    have hperm (one : EngineEntry (Ledger τ)) :
        (before ++ one :: after ++ w.loose).Perm (one :: (before ++ after ++ w.loose)) := by
      rw [List.append_assoc, List.append_assoc, List.cons_append]
      exact List.perm_middle
    have hfirst : Accounted (entry :: (before ++ after ++ w.loose)) w.ledger.builds w.requests := by
      refine h.accounted.perm ?_
      rw [entries, hentries]
      exact (hperm entry).symm
    rw [hregistry, hbuilds, Registry.ids, hreplace _ hid]
    refine ⟨hfirst.request.perm (hperm _), ?_⟩
    have hids := h.ids
    rw [Registry.ids, hentries] at hids
    simpa only [List.map_append, List.map_cons, hid] using hids

/-- Every move is accounted for. -/
theorem accounted_step (h : w.Kept) (move : Move τ) :
    Accounted (w.step move).entries (w.step move).ledger.builds (w.step move).requests := by
  have haccounted := h.accounted
  have hnone : w.noted none = w.requests := by simp [noted]
  cases move with
  | create descriptor build =>
    simp only [step, asked?, hnone]
    exact (haccounted.add descriptor build).perm List.perm_middle
  | register index =>
    have hbuilds := congrArg Ledger.builds (w.ledger_register index)
    simp only [step, asked?, hnone]
    exact hbuilds ▸ haccounted.perm (w.perm_register index)
  | unregister id =>
    simp only [step, asked?, hnone]
    exact haccounted.perm (perm_unregister h.ids id)
  | reportFailure error =>
    simp only [step, asked?, hnone]
    exact haccounted
  | attach settings =>
    simp only [step, asked?, hnone]
    exact haccounted
  | request id =>
    refine (h.account_asks (asks_request w id) fun entry hentry => ?_).1
    rwa [Registry.id_of_get? hentry]
  | operate operation =>
    exact (h.account_asks (h.asks_operate operation).1 fun _ => Drive.get?_of_asked?).1
  | requestLoose index =>
    simp only [step, asked?, act]
    cases hindex : w.loose[index]? with
    | none =>
      simp only [hnone]
      exact haccounted
    | some entry =>
      obtain ⟨before, after, hloose, hset, -⟩ := exists_eq_append_of_getElem? hindex
      have hperm (one : EngineEntry (Ledger τ)) :
          (w.session.registry.entries ++ (before ++ one :: after)).Perm
            (one :: (w.session.registry.entries ++ before ++ after)) := by
        rw [← List.append_assoc]
        exact List.perm_middle
      rw [entries, hloose] at haccounted
      have hfirst := haccounted.perm (hperm entry).symm
      simp only [hset]
      exact hfirst.request.perm (hperm _)

/-- The books are kept by a move that touches neither the controller nor what is held. -/
theorem of_frame (h : w.Kept) {move : Move τ}
    (hframe : (w.act move).drive.controller = w.drive.controller ∧
      (w.act move).drive.held = w.drive.held ∧ (w.act move).session.registry.ids.Nodup) :
    (w.step move).Kept := by
  obtain ⟨hcontroller, hheld, hids⟩ := hframe
  refine ⟨⟨?_, ?_, ?_⟩, hids, h.accounted_step move, fun pending hpending => ?_⟩
  · exact hcontroller ▸ h.coherent.controller
  · exact hheld ▸ h.coherent.single
  · have hlive := h.coherent.live
    rwa [← hcontroller, ← hheld] at hlive
  · obtain ⟨number, hanswer⟩ := h.held pending (hheld ▸ hpending)
    exact ⟨number, List.mem_append_left _ hanswer⟩

/-- Every move keeps the books. -/
theorem step (h : w.Kept) (move : Move τ) : (w.step move).Kept := by
  cases move with
  | create descriptor build => exact h.of_frame ⟨rfl, rfl, h.ids⟩
  | reportFailure error => exact h.of_frame ⟨rfl, rfl, h.ids⟩
  | unregister id => exact h.of_frame ⟨rfl, rfl, Registry.nodup_ids_unregister h.ids id⟩
  | register index =>
    refine h.of_frame ?_
    simp only [act]
    cases w.loose[index]? with
    | none => exact ⟨rfl, rfl, h.ids⟩
    | some entry => exact ⟨rfl, rfl, Registry.nodup_ids_registerIfNew h.ids entry⟩
  | request id =>
    have hentry : ∀ entry ∈ w.asked? (.request id),
        w.session.registry.get? entry.id = some entry := fun entry hget => by
      rwa [Registry.id_of_get? hget]
    exact h.of_frame ⟨rfl, rfl, (h.account_asks (asks_request w id) hentry).2⟩
  | requestLoose index =>
    refine h.of_frame ?_
    simp only [act]
    cases w.loose[index]? with
    | none => exact ⟨rfl, rfl, h.ids⟩
    | some entry => exact ⟨rfl, rfl, h.ids⟩
  | attach settings =>
    refine ⟨Drive.coherent_start .., h.ids, h.accounted_step _, ?_⟩
    intro pending hpending
    cases hpending
  | operate operation =>
    obtain ⟨hasks, hheld⟩ := h.asks_operate operation
    refine ⟨h.coherent.step _, (h.account_asks hasks fun _ => Drive.get?_of_asked?).2,
      h.accounted_step _, fun pending hpending => ?_⟩
    rcases hheld pending hpending with hbefore | ⟨entry, hentry, hanswer⟩
    · obtain ⟨number, hanswer⟩ := h.held pending hbefore
      exact ⟨number, List.mem_append_left _ hanswer⟩
    · refine ⟨entry.number, List.mem_append_right _ ?_⟩
      have hasked : w.asked? (.operate operation) = some entry := hentry
      rw [hasked, ← hanswer]
      exact List.mem_singleton_self _

/-- Every run keeps the books. -/
theorem run (h : w.Kept) (moves : List (Move τ)) : (w.run moves).Kept := by
  induction moves generalizing w with
  | nil => exact h
  | cons move moves ih => exact ih (h.step move)

/-- Before the deadline a poll is not due. -/
theorem poll_of_lt (h : w.Kept) {now deadline : Time}
    (hdeadline : w.session.controller.timer.deadline = some deadline) (hnow : now < deadline) :
    (w.session.poll now).2 = false := by
  have hc : w.session.controller.Coherent := h.coherent.controller
  have hflight : w.session.controller.flight = .none := by
    refine Decidable.byContradiction fun hflight => ?_
    have htimer := hc.timer
    rw [hc.flight.mp hflight, hdeadline] at htimer
    contradiction
  have hdue : w.session.controller.timer.isDue now = false := by
    simpa [DebounceTimer.isDue, hdeadline] using hnow
  rw [Session.poll_of_not_due (by simp [hflight]) hdue]

/-- An idle move asks no entry. -/
theorem asked?_of_idle (h : w.Kept) {move : Move τ} (hidle : w.Idle move) :
    w.asked? move = none := by
  cases move with
  | create | register | unregister | reportFailure | attach => rfl
  | request | requestLoose => exact hidle.elim
  | operate operation =>
    cases operation with
    | input | complete | abandon | drift => rfl
    | begin | flush => exact Blocked.asked?_eq_none hidle
    | poll now =>
      have hpoll : (w.session.poll now).2 = false ∨ w.session.asked? = none := by
        rcases hidle with (htext | hheld) | ⟨deadline, hdeadline, hnow⟩ | hpoll
        · exact .inr (Session.asked?_eq_none_iff.mpr (.inl htext))
        · rw [session, Session.poll_of_live h.coherent.controller (h.coherent.live.mpr hheld)]
          exact .inl rfl
        · exact .inl (h.poll_of_lt hdeadline hnow)
        · exact .inl hpoll
      change (if (w.session.poll now).2 then w.session.asked? else none) = none
      rcases hpoll with hpoll | hasked
      · rw [hpoll]
        rfl
      · rw [hasked, ite_self]

/-- An idle move builds nothing and is no request. -/
theorem step_of_idle (h : w.Kept) {move : Move τ} (hidle : w.Idle move) :
    (w.step move).ledger.builds = w.ledger.builds ∧ (w.step move).requests = w.requests := by
  have hasked := h.asked?_of_idle hidle
  refine ⟨?_, by simp [Workshop.step, noted, hasked]⟩
  cases move with
  | create | unregister | reportFailure | attach => rfl
  | request | requestLoose => exact hidle.elim
  | register index => exact congrArg Ledger.builds (w.ledger_register index)
  | operate operation =>
    have hbuilds := (h.asks_operate operation).1.builds
    rw [hasked] at hbuilds
    exact hbuilds

end Kept

/-- In every run, and for every entry: its engine is built with success once at most. The requests
for it up to and including the first that succeeds are those for which its factory was called, with
the same success; every later request is answered with the same engine. The entry is instantiated
exactly if a build has succeeded. Then the next request is answered with that engine and calls no
factory; else it calls the factory of the entry once, and leaves the entry instantiated exactly if
that succeeds. What is held has the engine of such an answer. No factory is called when entries are
made, registered or removed, engines selected or reconciled, by a poll before the deadline, or by an
attempt with an empty template or while a generation is in flight; and a snapshot is the same
whatever is built. -/
theorem engines_are_built_once (settings : ControllerSettings) (emitters : EmitterTable)
    (world : τ) (moves : List (Move τ)) :
    let w := (start settings emitters world).run moves
    (w.entries.map EngineEntry.number).Nodup ∧
    (∀ entry ∈ w.entries,
      let next := entry.request w.ledger
      (∃ build, entry.build = Ledger.factory entry.number build) ∧
      (w.builds entry).count true ≤ 1 ∧
      w.builds entry =
        ((w.answers entry).take ((w.answers entry).findIdx Except.isOk + 1)).map Except.isOk ∧
      (w.answers entry).Pairwise (fun earlier later =>
        ∀ engine, earlier = .ok engine → later = .ok engine) ∧
      (entry.isInstantiated = true ↔ true ∈ w.builds entry) ∧
      (∀ engine, .ok engine ∈ w.answers entry → next = (.kept engine, entry, w.ledger)) ∧
      (entry.isInstantiated = false →
        next.2.2.builds = w.ledger.builds ++ [(entry.number, next.1.engine.isOk)] ∧
          next.2.1.isInstantiated = next.1.engine.isOk)) ∧
    (∀ pending ∈ w.drive.held, ∃ number, (number, .ok pending.engine) ∈ w.requests) ∧
    (∀ move, w.Idle move →
      (w.step move).ledger.builds = w.ledger.builds ∧ (w.step move).requests = w.requests) ∧
    ∀ (registry : Registry (Ledger τ)) (ledger : Ledger τ),
      registry.catalog = w.session.registry.catalog →
        { w.session with registry, world := ledger }.snapshot = w.session.snapshot := by
  intro w
  have hkept : w.Kept := (kept_start settings emitters world).run moves
  refine ⟨hkept.accounted.nodup, fun entry hentry => ?_, hkept.held,
    fun move hidle => hkept.step_of_idle hidle, fun registry ledger hcatalog => ?_⟩
  · have hrecorded : entry.Recorded := hkept.accounted.recorded entry hentry
    have hcourse : Course (w.answers entry) (w.builds entry) entry.built :=
      hkept.accounted.course entry hentry
    refine ⟨hrecorded.build, hcourse.count_builds_le, hcourse.builds_eq, hcourse.pairwise_answers,
      hcourse.isSome_iff, fun engine hanswer => ?_,
      fun hnone => hrecorded.request_of_not_instantiated hnone w.ledger⟩
    have hbuilt : entry.built = some engine := hcourse.mem_answers_iff.mp hanswer
    simp only [EngineEntry.request, hbuilt]
  · simp only [Session.snapshot, hcatalog]

/-- Two builds of an engine fail, by a poll and by a flush. After another engine was selected and
built, the entry is removed, asked past the controller, which builds its engine, and registered
again. The generation that begins then calls no factory. -/
theorem engine_is_built_once_after_failures :
    let engine : Engine Nat := {
      origin := .script
      generate := fun source _ n => (.result (Behavior.echo source true), n) }
    let flaky (n : Nat) : Except EngineError (Engine Nat) × Nat :=
      if n < 2 then (.error (.instantiation "runtime missing"), n + 1) else (.ok engine, n)
    let moves : List (Move Nat) :=
      [.create ⟨"flaky", "Flaky", [⟨"text", "Text"⟩]⟩ flaky,
        .create ⟨"steady", "Steady", [⟨"text", "Text"⟩]⟩ fun n => (.ok engine, n), .register 1,
        .register 0, .operate (.input .registryChanged 0), .operate (.input (.text "x") 0),
        .operate (.poll 99), .operate (.poll 100), .operate (.flush 101),
        .operate (.input (.engine (some "steady")) 102), .operate (.flush 103), .unregister "flaky",
        .requestLoose 0, .register 0, .operate (.input (.engine (some "flaky")) 104),
        .operate .begin]
    let w := (start {} (EmitterTable.register {} "text" (.plain "text")) 0).run moves
    w.ledger.builds = [(0, false), (0, false), (1, true), (0, true)] ∧
      (w.requests.map fun request => (request.1, request.2.isOk)) =
        [(0, false), (0, false), (1, true), (0, true), (0, true)] ∧
      w.drive.held.length = 1 ∧
      (∀ entry ∈ w.entries, entry.isInstantiated = true ∧ true ∈ w.builds entry) ∧
      (w.step (.operate .begin)).ledger.builds = w.ledger.builds := by
  intro engine flaky moves w
  obtain ⟨-, hentries, -, hidle, -⟩ :=
    engines_are_built_once {} (EmitterTable.register {} "text" (.plain "text")) 0 moves
  have hheld : w.drive.held.length = 1 := by decide +kernel
  have hbuilt : ∀ entry ∈ w.entries, entry.isInstantiated = true := by decide +kernel
  have hbusy : w.Idle (.operate .begin) := .inr (by simp [← List.length_pos_iff, hheld])
  refine ⟨by decide +kernel, by decide +kernel, hheld, fun entry hentry => ?_, (hidle _ hbusy).1⟩
  obtain ⟨-, -, -, -, hinstantiated, -⟩ := hentries entry hentry
  exact ⟨hbuilt entry hentry, hinstantiated.mp (hbuilt entry hentry)⟩

end Workshop

end TemplateInspector
