import Mathlib.Data.List.Chain
import TemplateInspector.Proofs.Controller.SingleFlight
import TemplateInspector.Proofs.Loop.Publication
import TemplateInspector.Proofs.Loop.Rest

/-!
# What a loop shows while an engine runs

A loop publishes only what differs from what it has published last. Still every engine that is
called is announced: what is shown when it is called is the same as the snapshot of the generation
that takes off. Between two steps the generating state is shown only for a generation that was given
up before the loop was started. The count of generations that is shown keeps up with the calls of
engines, one call and one publication at a time.
-/

namespace TemplateInspector

variable {σ : Type}

/-! ## Logs -/

/-- The snapshot that was published, if that is what could be seen. -/
def LoopEvent.snapshot? : LoopEvent → Option Snapshot
  | published _ snapshot => some snapshot
  | called .. => none

/-- What an engine was asked for, if a call is what could be seen. -/
def LoopEvent.request? : LoopEvent → Option Request
  | called _ request => some request
  | published .. => none

/-- The snapshots that were published in a log, in order. -/
def publicationsIn (log : List LoopEvent) : List Snapshot :=
  log.filterMap LoopEvent.snapshot?

/-- What engines were asked for in a log, in order. -/
def callsIn (log : List LoopEvent) : List Request :=
  log.filterMap LoopEvent.request?

/-- What is shown after a log if this snapshot was shown before. -/
def shownAfter (first : Snapshot) (log : List LoopEvent) : Snapshot :=
  (publicationsIn log).getLastD first

@[simp] theorem publicationsIn_published (log : List LoopEvent) (time : Time)
    (snapshot : Snapshot) :
    publicationsIn (log ++ [.published time snapshot]) = publicationsIn log ++ [snapshot] :=
  List.filterMap_append

@[simp] theorem publicationsIn_called (log : List LoopEvent) (time : Time) (request : Request) :
    publicationsIn (log ++ [.called time request]) = publicationsIn log :=
  List.filterMap_append.trans (List.append_nil _)

@[simp] theorem callsIn_published (log : List LoopEvent) (time : Time) (snapshot : Snapshot) :
    callsIn (log ++ [.published time snapshot]) = callsIn log :=
  List.filterMap_append.trans (List.append_nil _)

@[simp] theorem callsIn_called (log : List LoopEvent) (time : Time) (request : Request) :
    callsIn (log ++ [.called time request]) = callsIn log ++ [request] :=
  List.filterMap_append

/-- What was published last is shown. -/
theorem shownAfter_published (first : Snapshot) (log : List LoopEvent) (time : Time)
    (snapshot : Snapshot) : shownAfter first (log ++ [.published time snapshot]) = snapshot := by
  simp [shownAfter]

/-- A call of an engine shows nothing. -/
theorem shownAfter_called (first : Snapshot) (log : List LoopEvent) (time : Time)
    (request : Request) :
    shownAfter first (log ++ [.called time request]) = shownAfter first log := by
  simp [shownAfter]

/-- The event behind which a log with one event more is cut is this event, or is one of the rest. -/
theorem concat_eq_append_cons {α : Type} {log earlier later : List α} {event other : α}
    (h : log ++ [event] = earlier ++ other :: later) :
    (earlier = log ∧ other = event) ∨ ∃ rest, log = earlier ++ other :: rest := by
  rcases later.eq_nil_or_concat with rfl | ⟨rest, last, rfl⟩
  · obtain ⟨hlog, hevent⟩ := List.append_inj' h rfl
    cases hevent
    exact .inl ⟨hlog.symm, rfl⟩
  · rw [List.concat_eq_append, ← List.cons_append, ← List.append_assoc] at h
    exact .inr ⟨rest, (List.append_inj' h rfl).1⟩

/-! ## Snapshots -/

/-- A snapshot shows that an engine is asked for something after this many calls. -/
structure Snapshot.Announces (snapshot : Snapshot) (request : Request) (calls : Nat) : Prop where
  state : snapshot.state = "generating"
  status : snapshot.status = "Compiling..."
  text : snapshot.text = request.source
  engine : snapshot.engine = some request.engine
  language : snapshot.language.map Language.id = request.host.language.map Language.id
  designTime : snapshot.designTime = request.host.designTime
  generations : snapshot.generations = calls

/-- A snapshot may be published after another one: they differ, and one generation more was
completed at most. -/
structure Snapshot.Precedes (snapshot next : Snapshot) : Prop where
  differs : snapshot.same next = false
  le : snapshot.generations ≤ next.generations
  le_succ : next.generations ≤ snapshot.generations + 1

/-- Snapshots that are the same agree in everything but the names of languages. -/
theorem Snapshot.fields_of_same {a b : Snapshot} (h : a.same b = true) :
    a.state = b.state ∧ a.status = b.status ∧ a.text = b.text ∧ a.engine = b.engine ∧
      a.language.map Language.id = b.language.map Language.id ∧ a.designTime = b.designTime ∧
      a.generations = b.generations := by
  simp only [same, Bool.and_eq_true, beq_iff_eq, decide_eq_true_eq] at h
  obtain ⟨⟨⟨⟨⟨⟨⟨⟨⟨hstate, hstatus⟩, htext⟩, hengine⟩, hlanguage⟩, -⟩, hmode⟩, -⟩, -⟩, hcount⟩ := h
  have hid : a.language.map Language.id = b.language.map Language.id := by
    cases ha : a.language <;> cases hb : b.language <;>
      simp_all [Language.sameOption, Language.same]
  exact ⟨hstate, hstatus, htext, hengine, hid, hmode, hcount⟩

/-- The same snapshots announce the same. -/
theorem Snapshot.Announces.of_same {a b : Snapshot} {request : Request} {calls : Nat}
    (h : b.Announces request calls) (hsame : a.same b = true) : a.Announces request calls := by
  obtain ⟨hstate, hstatus, htext, hengine, hlanguage, hmode, hcount⟩ := fields_of_same hsame
  exact ⟨hstate.trans h.state, hstatus.trans h.status, htext.trans h.text,
    hengine.trans h.engine, hlanguage.trans h.language, hmode.trans h.designTime,
    hcount.trans h.generations⟩

namespace Session

/-- A generation that takes off is announced by what the session then shows. -/
theorem Attempt.announces {s s' : Session σ} {pending : PendingGeneration σ}
    (h : Attempt s s' (some pending)) :
    s'.snapshot.Announces pending.request s'.controller.generations := by
  cases h with
  | begun _ hid =>
    exact ⟨rfl, rfl, rfl, hid, rfl, rfl, rfl⟩

end Session

namespace Loop

/-! ## What is recorded -/

variable {first : Snapshot} {made : List Request} {l : Loop σ}

/-- A loop that showed a snapshot and had made some calls when it was started has recorded what it
did since: its calls of engines, each of which was announced, and what it has published. What is
shown is at most one generation behind. -/
structure Recorded (first : Snapshot) (made : List Request) (l : Loop σ) : Prop where
  calls : l.session.calls = made ++ callsIn l.log
  counted : l.session.controller.generations = l.session.calls.length
  shown : l.published = shownAfter first l.log
  announced : ∀ earlier time request later, l.log = earlier ++ .called time request :: later →
    (shownAfter first earlier).Announces request (made.length + (callsIn earlier).length)
  successive : (first :: publicationsIn l.log).IsChain Snapshot.Precedes
  le : l.published.generations ≤ l.session.controller.generations
  le_succ : l.session.controller.generations ≤ l.published.generations + 1

/-- A step that calls no engine and publishes nothing keeps the records. -/
theorem Recorded.of_eq {l' : Loop σ} (h : l.Recorded first made) (hlog : l'.log = l.log)
    (hpublished : l'.published = l.published) (hcalls : l'.session.calls = l.session.calls)
    (hgenerations : l'.session.controller.generations = l.session.controller.generations) :
    l'.Recorded first made where
  calls := by rw [hcalls, hlog, h.calls]
  counted := by rw [hgenerations, hcalls, h.counted]
  shown := by rw [hpublished, hlog, h.shown]
  announced := by
    rw [hlog]
    exact h.announced
  successive := by
    rw [hlog]
    exact h.successive
  le := by
    rw [hpublished, hgenerations]
    exact h.le
  le_succ := by
    rw [hpublished, hgenerations]
    exact h.le_succ

/-- Publishing keeps the records, and then what is shown is not behind. -/
theorem Recorded.publish (h : l.Recorded first made) :
    l.publish.Recorded first made ∧
      l.publish.published.generations = l.session.controller.generations := by
  obtain ⟨-, -, -, -, -, -, hcount⟩ := Snapshot.fields_of_same l.same_publish
  refine ⟨?_, hcount⟩
  cases hsame : l.published.same l.session.snapshot with
  | true =>
    have hidle : l.publish = l := by simp only [Loop.publish, hsame, ite_true]
    rw [hidle]
    exact h
  | false =>
    have hnext : l.publish = { l with
        published := l.session.snapshot
        log := l.log ++ [.published l.clock l.session.snapshot] } := by
      simp only [Loop.publish, hsame, Bool.false_eq_true, ite_false]
    rw [hnext]
    refine ⟨?_, h.counted, (shownAfter_published ..).symm, ?_, ?_, Nat.le_refl _, Nat.le_succ _⟩
    · simpa using h.calls
    · intro earlier time request later hlog
      rcases concat_eq_append_cons hlog with ⟨-, hevent⟩ | ⟨rest, hrest⟩
      · cases hevent
      · exact h.announced earlier time request rest hrest
    · rw [publicationsIn_published, ← List.cons_append]
      refine h.successive.append (List.isChain_singleton _) fun last hlast next hnext => ?_
      -- The last publication is what is still shown.
      have hlast : last = l.published := by
        rw [h.shown, shownAfter, List.getLastD_eq_getLast?]
        simpa [List.getLast?_cons] using hlast.symm
      have hnext : next = l.session.snapshot := by simpa using hnext.symm
      rw [hlast, hnext]
      exact ⟨hsame, h.le, h.le_succ⟩

/-- A call that was announced is recorded. -/
theorem Recorded.call (h : l.Recorded first made) {pending : PendingGeneration σ}
    (hannounced : l.published.Announces pending.request l.session.controller.generations) :
    ({ l with
      session := l.session.complete pending l.clock
      log := l.log ++ [.called l.clock pending.request] } : Loop σ).Recorded first made := by
  have hmeets := l.session.meets_complete pending l.clock
  have hcalls : (l.session.complete pending l.clock).calls =
      l.session.calls ++ [pending.request] := hmeets.calls
  have hcount : (l.session.complete pending l.clock).controller.generations =
      l.session.controller.generations + 1 := hmeets.count
  have hbehind := hannounced.generations
  have hmade : l.session.controller.generations = made.length + (callsIn l.log).length := by
    rw [h.counted, h.calls, List.length_append]
  refine ⟨?_, ?_, ?_, ?_, ?_, ?_, ?_⟩
  · simp [hcalls, h.calls]
  · simp [hcount, hcalls, h.counted]
  · exact h.shown.trans (shownAfter_called ..).symm
  · intro earlier time request later hlog
    rcases concat_eq_append_cons hlog with ⟨rfl, hevent⟩ | ⟨rest, hrest⟩
    · cases hevent
      rw [← h.shown, ← hmade]
      exact hannounced
    · exact h.announced earlier time request rest hrest
  · simpa using h.successive
  · simp only [hcount, hbehind]
    exact Nat.le_succ _
  · simp only [hcount, hbehind]
    exact Nat.le_refl _

/-- A generation keeps the records, if none is held. -/
theorem Recorded.generate (h : l.Recorded first made) (hunheld : l.drive.Unheld) :
    l.generate.Recorded first made := by
  have hcoherent : l.session.controller.Coherent := hunheld.coherent.controller
  have hprepares := Session.prepares_begin hcoherent hunheld.ne_live
  have hattempt := Session.attempt_concludeAttempt l.session.startAttempt
  rw [← Session.begin_of_not_live hcoherent hunheld.ne_live] at hattempt
  have hbegun : ({ l with session := l.session.begin.1 } : Loop σ).Recorded first made :=
    h.of_eq rfl rfl hprepares.calls hprepares.generations
  rcases hbegin : l.session.begin with ⟨s, _ | pending⟩
  · rw [hbegin] at hbegun
    simpa only [Loop.generate, hbegin] using hbegun
  · rw [hbegin] at hbegun hattempt
    obtain ⟨hpublished, -⟩ := hbegun.publish
    -- What was begun is shown before its engine is called.
    let ready : Loop σ := { l with session := s }
    have hannounces : ready.publish.published.Announces pending.request
        ready.publish.session.controller.generations := by
      rw [session_publish]
      exact (Session.Attempt.announces hattempt).of_same (same_publish ready)
    have hcalled := hpublished.call hannounces
    have hclock : ready.publish.clock = l.clock := (Loop.frame_publish ready).2.2.1
    simp only [Loop.generate, hbegin]
    simpa only [hclock, session_publish] using hcalled

/-- An edit keeps the records. -/
theorem Recorded.mutate (h : l.Recorded first made) (edit : Edit σ) :
    (l.mutate edit).Recorded first made := by
  have hmeets := l.session.meets_edit l.clock edit
  have hcalls : (l.session.edit l.clock edit).1.calls = l.session.calls :=
    hmeets.calls.trans (List.append_nil _)
  exact h.of_eq rfl rfl hcalls hmeets.count

/-- A command keeps the records. -/
theorem Recorded.apply (h : l.Recorded first made) (hunheld : l.drive.Unheld)
    (command : Command) : (l.apply command).Recorded first made := by
  cases command with
  | setText text => exact h.mutate (.input (.text text))
  | selectEngine id =>
    have hselected := h.mutate (.input (.engine id))
    simp only [Loop.mutate, Session.edit, Session.input] at hselected
    simp only [Loop.apply]
    cases hselect : l.session.selectEngine id l.clock with
    | error error => exact h
    | ok next =>
      rw [hselect] at hselected
      exact hselected
  | selectLanguage language => exact h.mutate (.input (.language language))
  | setDesignTime designTime => exact h.mutate (.input (.designTime designTime))
  | flush => exact h.generate hunheld
  | shutdown => exact h.of_eq rfl rfl rfl rfl

/-- A loop between two steps: it has recorded what it did, and nothing is held. -/
structure Candid (first : Snapshot) (made : List Request) (l : Loop σ) : Prop where
  recorded : l.Recorded first made
  unheld : l.drive.Unheld

/-- Serving a source of work keeps the records. -/
theorem Candid.served {next : Loop σ} {source : WorkSource} (h : l.Candid first made)
    (hserved : l.Served source next) : next.Recorded first made := by
  cases hserved with
  | @command command inbox applied hinbox happlied =>
    have hwaiting : ({ l with inbox } : Loop σ).Recorded first made :=
      h.recorded.of_eq rfl rfl rfl rfl
    have hrecorded : applied.Recorded first made :=
      happlied ▸ hwaiting.apply (l := { l with inbox }) h.unheld command
    split
    · exact hrecorded.publish.1
    · exact hrecorded
  | @event received reader hreceive =>
    have hread : ({ l with reader } : Loop σ).Recorded first made :=
      h.recorded.of_eq rfl rfl rfl rfl
    exact (hread.mutate (.input .registryChanged)).publish.1
  | deadline hdue => exact (h.recorded.generate h.unheld).publish.1

/-- Whatever happens, a loop has recorded what it did. -/
theorem Candid.happen (h : l.Candid first made) (happening : Happening σ) :
    (l.happen happening).Candid first made := by
  refine ⟨?_, unheld_happen h.unheld happening⟩
  cases happening with
  | serve source =>
    rcases l.happen_serve source with hidle | ⟨next, hnext, hserved⟩
    · rw [hidle]
      exact h.recorded
    · rw [hnext]
      exact h.served hserved
  | send command =>
    rw [happen_send]
    split
    · exact h.recorded.of_eq rfl rfl rfl rfl
    · exact h.recorded
  | register entry => exact h.recorded.mutate (.register entry)
  | unregister id => exact h.recorded.mutate (.unregister id)
  | reportFailure error => exact h.recorded.mutate (.reportFailure error)
  | elapse now => exact h.recorded.of_eq rfl rfl rfl rfl
  | drift world => exact h.recorded.of_eq rfl rfl rfl rfl

/-- The same holds for a run. -/
theorem Candid.run (h : l.Candid first made) (happenings : List (Happening σ)) :
    (l.run happenings).Candid first made :=
  List.foldlRecOn happenings Loop.happen h fun _ hcandid happening _ => hcandid.happen happening

end Loop

end TemplateInspector
