import Mathlib.Data.List.Infix
import TemplateInspector.Proofs.Controller.Abandonment

/-!
# The loop at rest

The selection of a loop may not fit the registered engines while there are events that the loop has
not served, and what is asked for may differ from what was commanded while there are commands that
it has not served. Both are invariants about what is still waiting. When nothing is waiting and no
deadline is set, the loop has caught up with everything that happened since it was started. A change
that was recorded with a generation before may still be owed, if that was given up.
-/

namespace TemplateInspector

variable {σ : Type}

/-! ## What is asked for -/

/-- The template that a command sets. -/
def Command.text? : Command → Option String
  | .setText text => some text
  | _ => none

/-- The mode that a command sets. -/
def Command.designTime? : Command → Option Bool
  | .setDesignTime designTime => some designTime
  | _ => none

/-- The template and the mode after a command. -/
def Command.ask (asked : String × Bool) (command : Command) : String × Bool :=
  (command.text?.getD asked.1, command.designTime?.getD asked.2)

/-- The template and the mode after an action. -/
def Action.ask (asked : String × Bool) : Action σ → String × Bool
  | .edit (.input (.text text)) _ => (text, asked.2)
  | .edit (.input (.designTime designTime)) _ => (asked.1, designTime)
  | _ => asked

/-- The template and the mode of some inputs. -/
def Inputs.asked (inputs : Inputs) : String × Bool :=
  (inputs.text, inputs.designTime)

namespace Session

/-- An edit leaves the registry as it is, or something is published. -/
theorem registry_edit (s : Session σ) (now : Time) (edit : Edit σ) :
    (s.edit now edit).1.registry = s.registry ∨
      s.registry.feed.events.length < (s.edit now edit).1.registry.feed.events.length := by
  cases edit with
  | input input => exact .inl (s.registry_input now input)
  | register entry =>
    simp only [Session.edit, register, Registry.register]
    split
    case h_1 s' hmade =>
      split at hmade
      · cases hmade
      · cases hmade
        right
        simp [Feed.publish]
    case h_2 => exact .inl rfl
  | unregister id =>
    simp only [Session.edit, unregister, Registry.unregister]
    split
    · right
      simp [Feed.publish]
    · exact .inl rfl
  | reportFailure error =>
    right
    simp [Session.edit, Registry.reportFailure, Feed.publish]

end Session

/-! ## Events that wait -/

namespace Feed

variable {ε : Type}

end Feed

namespace Drive

/-- A drive between two steps of a loop that reads the feed of the registry: nothing is held, and
the selection fits unless there are events to be read. -/
structure Attends (d : Drive σ) (reader : Subscription) : Prop where
  /-- Nothing is held. -/
  unheld : d.Unheld
  /-- The reader does not run ahead of the feed. -/
  behind : reader.next ≤ d.session.registry.feed.events.length
  /-- The selection fits once the reader has read everything. -/
  fits : reader.next = d.session.registry.feed.events.length → d.session.Fits

/-- Whatever disturbs the selection leaves an event to be read. -/
theorem Attends.edit {d : Drive σ} {reader : Subscription} (h : d.Attends reader) (edit : Edit σ)
    (now : Time) : (d.step (.edit edit now)).Attends reader := by
  have hunheld : (d.step (.edit edit now)).Unheld := h.unheld.step rfl
  rcases d.session.registry_edit now edit with hsame | hgrown
  · refine ⟨hunheld, ?_, fun hread => ?_⟩
    · exact hsame ▸ h.behind
    · have hread : reader.next = d.session.registry.feed.events.length := hsame ▸ hread
      exact (h.fits hread).edit (congrArg Registry.catalog hsame)
  · have hbehind := Nat.lt_of_le_of_lt h.behind hgrown
    exact ⟨hunheld, Nat.le_of_lt hbehind, fun hread => absurd hread (Nat.ne_of_lt hbehind)⟩

/-- An action that begins a generation only to complete it leaves the selection fitting, unless
there are events to be read. -/
theorem Attends.step {d : Drive σ} {reader : Subscription} (h : d.Attends reader)
    {action : Action σ} (haction : action.isWhole = true) : (d.step action).Attends reader := by
  have hunheld := h.unheld.step haction
  cases action with
  | edit edit now => exact h.edit edit now
  | flush now =>
    obtain ⟨hfits, hfeed⟩ :=
      Session.fits_run h.unheld.coherent.controller h.unheld.ne_live now
    rw [← Session.flush_eq_run] at hfits hfeed
    refine ⟨hunheld, ?_, fun _ => hfits⟩
    show _ ≤ (d.session.flush now).registry.feed.events.length
    rw [hfeed]
    exact h.behind
  | drift world =>
    exact ⟨hunheld, h.behind, fun hread => (h.fits hread).of_eq rfl fun _ => rfl⟩
  | begin | complete now | abandon | poll now => contradiction

/-- The same holds for several of them. -/
theorem Attends.perform {d : Drive σ} {reader : Subscription} (h : d.Attends reader)
    {actions : List (Action σ)} (hactions : ∀ action ∈ actions, action.isWhole = true) :
    (d.perform actions).Attends reader :=
  List.foldlRecOn (motive := fun d => d.Attends reader) actions Drive.step h
    fun _ hattends action haction => hattends.step (hactions action haction)

/-- With nothing held and no deadline, the last attempt asked for what is asked for now, unless
nothing was changed, or a change is recorded with a generation that was given up. -/
theorem Coherent.attempted {d : Drive σ} (h : d.Coherent) (actions : List (Action σ))
    (hlive : (d.perform actions).controller.flight ≠ .live)
    (hdeadline : (d.perform actions).controller.timer.deadline = none) :
    d.changesWithin actions = false ∨
      (∃ inputs, (d.perform actions).session.attempts.getLast? = some inputs ∧
        (d.perform actions).controller.inputs.Same inputs) ∨
      (d.perform actions).controller.flight = .abandoned ∧
        (d.perform actions).controller.changedInFlight = true := by
  rcases perform_cases h actions with (harmed | ⟨hrecorded, hinflight⟩) | hinputs | ⟨hquiet, -⟩
  · simp [DebounceTimer.isArmed, hdeadline] at harmed
  · refine .inr (.inr ⟨?_, hrecorded⟩)
    cases hflight : (d.perform actions).controller.flight with
    | none => exact absurd hflight hinflight
    | live => exact absurd hflight hlive
    | abandoned => rfl
  · exact .inr (.inl hinputs)
  · exact .inl hquiet

end Drive

namespace Loop

/-- The template and the mode once the commands that wait are served. -/
def pending (l : Loop σ) : String × Bool :=
  l.inbox.foldl Command.ask l.session.controller.inputs.asked

end Loop

end TemplateInspector
