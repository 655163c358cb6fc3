import TemplateInspector.Loop
import TemplateInspector.Proofs.Controller.Coherence

/-!
# Runs of the regeneration loop

A loop serves its sources of work in any order, while commands are sent, others register and remove
engines, time passes and the world of the engines goes its own way. What the loop does to its
session are the calls that a driver could make. It begins a generation only to complete it at once,
so it holds none between two of its steps. One that was given up before the loop was started may
still be in the books of the controller.
-/

namespace TemplateInspector

variable {σ : Type}

/-- What happens next: the loop serves a source of work, or something changes around it. -/
inductive Happening (σ : Type)
  /-- The loop serves a source of work, if that is ready. -/
  | serve (source : WorkSource)
  /-- A command is sent. -/
  | send (command : Command)
  /-- An engine is registered. -/
  | register (entry : EngineEntry σ)
  /-- An engine is removed. -/
  | unregister (id : String)
  /-- A source of engines could not be loaded. -/
  | reportFailure (error : DiscoveryError)
  /-- It is this time now, which may lie in the past. -/
  | elapse (now : Time)
  /-- The world of the engines changes. -/
  | drift (world : σ)

/-- The calls that carry a command out. -/
def Command.calls (now : Time) : Command → List (Action σ)
  | .setText text => [.edit (.input (.text text)) now]
  | .selectEngine id => [.edit (.input (.engine id)) now]
  | .selectLanguage language => [.edit (.input (.language language)) now]
  | .setDesignTime designTime => [.edit (.input (.designTime designTime)) now]
  | .flush => [.flush now]
  | .shutdown => []

/-- Whether an action completes at once whatever generation it begins. -/
def Action.isWhole : Action σ → Bool
  | .edit .. | .flush _ | .drift _ => true
  | .begin | .complete _ | .abandon | .poll _ => false

namespace Session

/-- Reclaiming a second time does nothing. -/
theorem reclaim_reclaim (c : Controller) : c.reclaim.1.reclaim.1 = c.reclaim.1 := by
  by_cases h : c.flight = .abandoned
  · simp [Controller.reclaim, h]
  · rw [Controller.reclaim_of_ne_abandoned h, Controller.reclaim_of_ne_abandoned h]

/-- Flushing runs a generation, which reclaims what was given up by itself. -/
theorem flush_eq_run (s : Session σ) (now : Time) : s.flush now = s.run now := by
  have hbegin : { s with controller := s.controller.reclaim.1 }.begin = s.begin := by
    simp only [begin, reclaim_reclaim]
  rw [flush, run, hbegin, run]

end Session

namespace Drive

/-- A coherent drive whose driver holds nothing. A generation may have been given up before. -/
structure Unheld (d : Drive σ) : Prop where
  /-- The drive is coherent. -/
  coherent : d.Coherent
  /-- No generation was begun that is neither completed nor given up. -/
  held : d.held = []

variable {d : Drive σ}

theorem Unheld.ne_live (h : d.Unheld) : d.session.controller.flight ≠ .live :=
  (not_congr h.coherent.live).mpr (not_not_intro h.held)

/-- Nothing is held after an action that begins a generation only to complete it. -/
theorem Unheld.step (h : d.Unheld) {action : Action σ} (haction : action.isWhole = true) :
    (d.step action).Unheld := by
  refine ⟨h.coherent.step action, ?_⟩
  cases action with
  | edit edit now | flush now | drift world => exact h.held
  | begin | complete now | abandon | poll now => contradiction

/-- Nor is anything held after several of them. -/
theorem Unheld.perform (h : d.Unheld) {actions : List (Action σ)}
    (hactions : ∀ action ∈ actions, action.isWhole = true) : (d.perform actions).Unheld :=
  List.foldlRecOn actions Drive.step h fun _ hunheld action haction =>
    hunheld.step (hactions action haction)

end Drive

namespace Loop

/-! ## What a step leaves alone -/

@[simp] theorem session_publish (l : Loop σ) : l.publish.session = l.session := by
  simp only [publish]
  split <;> rfl

/-- Publishing changes nothing that the loop works with. -/
theorem frame_publish (l : Loop σ) :
    l.publish.inbox = l.inbox ∧ l.publish.reader = l.reader ∧ l.publish.clock = l.clock ∧
      l.publish.running = l.running := by
  simp only [publish]
  split <;> exact ⟨rfl, rfl, rfl, rfl⟩

/-- The loop runs a generation at once. -/
theorem session_generate (l : Loop σ) : l.generate.session = l.session.run l.clock := by
  rcases hbegin : l.session.begin with ⟨s, _ | pending⟩
  · simp only [generate, Session.run, hbegin]
  · have hclock := (Loop.frame_publish { l with session := s }).2.2.1
    simp only [generate, Session.run, hbegin, session_publish, hclock]

/-- A generation changes nothing else that the loop works with. -/
theorem frame_generate (l : Loop σ) :
    l.generate.inbox = l.inbox ∧ l.generate.reader = l.reader ∧ l.generate.clock = l.clock ∧
      l.generate.running = l.running := by
  rcases hbegin : l.session.begin with ⟨s, _ | pending⟩
  · simp only [generate, hbegin, and_self]
  · simp only [generate, hbegin]
    exact frame_publish _

/-- A command changes nothing but the session, unless it stops the loop. -/
theorem frame_apply (l : Loop σ) (command : Command) :
    (l.apply command).inbox = l.inbox ∧ (l.apply command).reader = l.reader ∧
      (l.apply command).clock = l.clock ∧
      (l.apply command).running = (l.running && command ≠ .shutdown) := by
  cases command with
  | selectEngine id =>
    simp only [apply]
    cases l.session.selectEngine id l.clock <;> simp
  | flush => simpa [apply] using l.frame_generate
  | setText | selectLanguage | setDesignTime | shutdown => simp [apply]

/-! ## Runs -/

/-- Others change the registry. -/
def mutate (l : Loop σ) (edit : Edit σ) : Loop σ :=
  { l with session := (l.session.edit l.clock edit).1 }

/-- The loop after something happened. Nothing is served that is not ready, and a loop that has
stopped takes no command. -/
def happen (l : Loop σ) : Happening σ → Loop σ
  | .serve source => (l.serve source).getD l
  | .send command =>
    match l.send command with
    | .ok l => l
    | .error _ => l
  | .register entry => l.mutate (.register entry)
  | .unregister id => l.mutate (.unregister id)
  | .reportFailure error => l.mutate (.reportFailure error)
  | .elapse now => { l with clock := now }
  | .drift world => { l with session := { l.session with world } }

/-- The loop after several things happened one after another. -/
def run (l : Loop σ) (happenings : List (Happening σ)) : Loop σ :=
  happenings.foldl happen l

@[simp] theorem run_nil (l : Loop σ) : l.run [] = l := rfl

theorem run_append (l : Loop σ) (before after : List (Happening σ)) :
    l.run (before ++ after) = (l.run before).run after :=
  List.foldl_append

/-- A command that is sent waits behind the others, unless the loop has stopped. -/
theorem happen_send (l : Loop σ) (command : Command) :
    l.happen (.send command) =
      if l.running then { l with inbox := l.inbox ++ [command] } else l := by
  cases hrunning : l.running <;> simp [happen, send, hrunning]

/-- What the loop does when it serves a source of work. -/
inductive Served (l : Loop σ) : WorkSource → Loop σ → Prop
  /-- It carries out the first command, which may stop it. -/
  | command {command : Command} {inbox : List Command} {next : Loop σ}
      (hinbox : l.inbox = command :: inbox) (hnext : { l with inbox }.apply command = next) :
      Served l .command (if next.running then next.publish else next)
  /-- It moves on in the feed and repairs the selection. -/
  | event {received : Received RegistryEvent} {reader : Subscription}
      (hreceive : l.session.registry.feed.receive l.reader = some (received, reader)) :
      Served l .event
        { l with reader, session := (l.session.edit l.clock (.input .registryChanged)).1 }.publish
  /-- It runs a generation. -/
  | deadline (hdue : l.session.controller.timer.isDue l.clock = true) :
      Served l .deadline l.generate.publish

/-- A source of work that is ready is served, as long as the loop runs. -/
theorem served_of_serve {l next : Loop σ} {source : WorkSource} (h : l.serve source = some next) :
    l.running = true ∧ l.Served source next := by
  cases hrunning : l.running with
  | false => simp [serve, hrunning] at h
  | true =>
    refine ⟨rfl, ?_⟩
    simp only [serve, hrunning, Bool.not_true, Bool.false_eq_true, if_false] at h
    cases source with
    | command =>
      cases hinbox : l.inbox with
      | nil => simp [serveCommand, hinbox] at h
      | cons command inbox =>
        simp only [serveCommand, hinbox, Option.some.injEq] at h
        exact h ▸ .command hinbox rfl
    | event =>
      obtain ⟨⟨received, reader⟩, hreceive, rfl⟩ := Option.map_eq_some_iff.mp h
      exact .event hreceive
    | deadline =>
      simp only [serveDeadline, Option.ite_none_right_eq_some, Option.some.injEq] at h
      exact h.2 ▸ .deadline h.1

/-- A source of work is served if it is ready, and else nothing happens. -/
theorem happen_serve (l : Loop σ) (source : WorkSource) :
    l.happen (.serve source) = l ∨
      ∃ next, l.happen (.serve source) = next ∧ l.Served source next := by
  cases hserve : l.serve source with
  | none => exact .inl (by rw [happen, hserve, Option.getD_none])
  | some next =>
    exact .inr ⟨next, by rw [happen, hserve, Option.getD_some], (served_of_serve hserve).2⟩

/-- A command that is served waits no longer. -/
theorem Served.inbox {l next : Loop σ} {source : WorkSource} (h : l.Served source next) :
    next.inbox = if source = .command then l.inbox.tail else l.inbox := by
  cases h with
  | @command command inbox applied hinbox happlied =>
    have hrest : applied.inbox = inbox := happlied ▸ (frame_apply ..).1
    rw [if_pos rfl, hinbox, List.tail_cons]
    split
    · rw [(frame_publish applied).1, hrest]
    · exact hrest
  | event hreceive => exact (frame_publish _).1
  | deadline hdue => exact (frame_publish l.generate).1.trans l.frame_generate.1

/-- The feed is read only when an event is served. -/
theorem Served.reader {l next : Loop σ} {source : WorkSource} (h : l.Served source next)
    (hsource : source ≠ .event) : next.reader = l.reader := by
  cases h with
  | @command command inbox applied hinbox happlied =>
    have hreader : applied.reader = l.reader := happlied ▸ (frame_apply ..).2.1
    split
    · rw [(frame_publish applied).2.1, hreader]
    · exact hreader
  | event hreceive => contradiction
  | deadline hdue => exact (frame_publish l.generate).2.1.trans l.frame_generate.2.1

/-- A source of work that is not ready is left alone. -/
theorem idle_of_serve {l : Loop σ} {source : WorkSource} (hrunning : l.running = true)
    (h : l.serve source = none) :
    match source with
    | .command => l.inbox = []
    | .event => l.session.registry.feed.receive l.reader = none
    | .deadline => l.session.controller.timer.isDue l.clock = false := by
  simp only [serve, hrunning, Bool.not_true, Bool.false_eq_true, if_false] at h
  cases source with
  | command =>
    cases hinbox : l.inbox with
    | nil => rfl
    | cons command inbox => simp [serveCommand, hinbox] at h
  | event => exact Option.map_eq_none_iff.mp h
  | deadline => simpa [serveDeadline] using h

/-- Serving what is ready first is a run. -/
theorem step_eq_happen {l next : Loop σ} (h : l.step = some next) :
    ∃ source, next = l.happen (.serve source) := by
  unfold step at h
  cases hcommand : l.serve .command with
  | some served =>
    refine ⟨.command, ?_⟩
    simp_all [happen]
  | none =>
    cases hevent : l.serve .event with
    | some served =>
      refine ⟨.event, ?_⟩
      simp_all [happen]
    | none =>
      refine ⟨.deadline, ?_⟩
      simp_all [happen]

/-- Serving all that is ready is a run. -/
theorem steps_eq_run (fuel : Nat) (l : Loop σ) : ∃ happenings, l.steps fuel = l.run happenings := by
  induction fuel generalizing l with
  | zero => exact ⟨[], rfl⟩
  | succ fuel ih =>
    rw [steps]
    split
    case h_1 next hstep =>
      obtain ⟨source, rfl⟩ := step_eq_happen hstep
      obtain ⟨happenings, hrun⟩ := ih (l.happen (.serve source))
      exact ⟨.serve source :: happenings, hrun⟩
    case h_2 => exact ⟨[], rfl⟩

/-- Going on at another time, and serving all that is ready then, prolongs a run. -/
theorem settle_eq_run {l next : Loop σ} (h : ∃ happenings, next = l.run happenings) (now : Time) :
    ∃ happenings, { next with clock := now }.settle = l.run happenings := by
  obtain ⟨before, rfl⟩ := h
  obtain ⟨after, hrun⟩ := steps_eq_run (2 * (l.run before).backlog + 2)
    { l.run before with clock := now }
  exact ⟨before ++ .elapse now :: after, by rw [run_append]; exact hrun⟩

/-- Letting time pass and serving all that becomes ready is a run. -/
theorem sleepUntil_eq_run (l : Loop σ) (target : Time) :
    ∃ happenings, l.sleepUntil target = l.run happenings := by
  unfold sleepUntil
  apply settle_eq_run
  split
  · split
    · exact settle_eq_run ⟨[], rfl⟩ _
    · exact ⟨[], rfl⟩
  · exact ⟨[], rfl⟩

/-! ## The calls of a run -/

/-- The session of a loop between two steps, with nothing held. -/
def drive (l : Loop σ) : Drive σ where
  session := l.session

/-- The calls with which a source of work is served. -/
def work (l : Loop σ) : WorkSource → List (Action σ)
  | .command => (l.inbox.head?.map (Command.calls l.clock)).getD []
  | .event =>
    if (l.session.registry.feed.receive l.reader).isSome then
      [.edit (.input .registryChanged) l.clock]
    else []
  | .deadline => if l.session.controller.timer.isDue l.clock then [.flush l.clock] else []

/-- The calls on the session that are made when something happens. -/
def calls (l : Loop σ) : Happening σ → List (Action σ)
  | .serve source => if l.running then l.work source else []
  | .register entry => [.edit (.register entry) l.clock]
  | .unregister id => [.edit (.unregister id) l.clock]
  | .reportFailure error => [.edit (.reportFailure error) l.clock]
  | .drift world => [.drift world]
  | .send _ | .elapse _ => []

/-- The calls on the session that are made in a run. -/
def trace (l : Loop σ) : List (Happening σ) → List (Action σ)
  | [] => []
  | happening :: happenings => l.calls happening ++ (l.happen happening).trace happenings

/-- A generation is a flush. -/
theorem drive_generate (l : Loop σ) : l.generate.drive = l.drive.step (.flush l.clock) := by
  rw [drive, session_generate, ← Session.flush_eq_run]
  rfl

/-- A command is carried out by its calls. -/
theorem drive_apply (l : Loop σ) (command : Command) :
    (l.apply command).drive = l.drive.perform (command.calls l.clock) := by
  cases command with
  | selectEngine id =>
    simp only [apply, Command.calls, Drive.perform_cons, Drive.perform_nil, Drive.step, drive,
      Session.edit, Session.input]
    cases l.session.selectEngine id l.clock <;> rfl
  | flush => exact l.drive_generate
  | setText | selectLanguage | setDesignTime | shutdown => rfl

/-- A source of work is served by its calls. -/
theorem Served.drive {l next : Loop σ} {source : WorkSource} (h : l.Served source next) :
    next.drive = l.drive.perform (l.work source) := by
  cases h with
  | @command command inbox applied hinbox happlied =>
    have happly : applied.drive = l.drive.perform (command.calls l.clock) := by
      rw [← happlied]
      exact drive_apply { l with inbox } command
    simp only [work, hinbox, List.head?_cons, Option.map_some, Option.getD_some]
    rw [← happly]
    split <;> simp [Loop.drive]
  | event hreceive =>
    simp only [work, hreceive, Option.isSome_some, if_true, Loop.drive, session_publish]
    rfl
  | deadline hdue =>
    simp only [work, hdue, if_true]
    rw [Drive.perform_cons, Drive.perform_nil, ← drive_generate, Loop.drive, session_publish,
      Loop.drive]

/-- There are no calls for a source of work that is not ready. -/
theorem work_of_serve {l : Loop σ} {source : WorkSource} (hrunning : l.running = true)
    (h : l.serve source = none) : l.work source = [] := by
  have hidle := idle_of_serve hrunning h
  cases source <;> simp_all [work]

/-- What happens is done by its calls. -/
theorem drive_happen (l : Loop σ) (happening : Happening σ) :
    (l.happen happening).drive = l.drive.perform (l.calls happening) := by
  cases happening with
  | serve source =>
    simp only [happen, calls]
    cases hserve : l.serve source with
    | some next =>
      obtain ⟨hrunning, hserved⟩ := served_of_serve hserve
      rw [if_pos hrunning, Option.getD_some]
      exact hserved.drive
    | none =>
      rw [Option.getD_none]
      split
      case isTrue hrunning =>
        rw [work_of_serve hrunning hserve]
        rfl
      case isFalse => rfl
  | send command =>
    rw [happen_send]
    split <;> rfl
  | register entry | unregister id | reportFailure error | elapse now | drift world => rfl

/-- A command begins nothing that is not completed. -/
theorem isWhole_of_mem_command (command : Command) (now : Time) :
    ∀ action ∈ (command.calls now : List (Action σ)), action.isWhole = true := by
  cases command <;> simp [Command.calls, Action.isWhole]

/-- No source of work begins anything that is not completed. -/
theorem isWhole_of_mem_work (l : Loop σ) (source : WorkSource) :
    ∀ action ∈ l.work source, action.isWhole = true := by
  cases source with
  | command =>
    cases hinbox : l.inbox with
    | nil => simp [work, hinbox]
    | cons command inbox => simpa [work, hinbox] using isWhole_of_mem_command command l.clock
  | event =>
    simp only [work]
    split <;> simp [Action.isWhole]
  | deadline =>
    simp only [work]
    split <;> simp [Action.isWhole]

/-- Whatever happens, nothing is begun that is not completed. -/
theorem isWhole_of_mem_calls (l : Loop σ) (happening : Happening σ) :
    ∀ action ∈ l.calls happening, action.isWhole = true := by
  cases happening with
  | serve source =>
    simp only [calls]
    split
    · exact l.isWhole_of_mem_work source
    · simp
  | send | register | unregister | reportFailure | elapse | drift => simp [calls, Action.isWhole]

/-- Between two steps of a loop the drive is coherent and nothing is held, if so it was before. -/
theorem unheld_happen {l : Loop σ} (h : l.drive.Unheld) (happening : Happening σ) :
    (l.happen happening).drive.Unheld := by
  rw [drive_happen]
  exact h.perform (l.isWhole_of_mem_calls happening)

end Loop

end TemplateInspector
