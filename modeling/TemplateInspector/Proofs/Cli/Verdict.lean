import TemplateInspector.Proofs.Cli.Precedence
import TemplateInspector.Proofs.Controller.Deadline
import TemplateInspector.Proofs.Controller.Handover
import TemplateInspector.Proofs.Controller.Provenance

/-!
# What compiling a template once reports

The command tells a template with errors from a failed attempt by the reason that the controller
gives for its state, which is free text. So the reason for a template with errors must not be given
by anything else, whatever text an engine leaves behind when it fails or breaks down. Every reason
for a failed attempt begins with words of its own, and none of these begins like the reason for a
template with errors.
-/

namespace TemplateInspector

variable {σ : Type}

namespace Fate

/-- The attempt failed, for a reason: the engine could not be built, it failed or broke down, or
its result could not be written. -/
inductive Fails (emitters : EmitterTable) : Fate σ → String → Prop
  /-- The engine could not be built. -/
  | unbuilt (error : EngineError) : Fails emitters (.unbuilt error) error.message
  /-- The engine failed. -/
  | failed (pending : PendingGeneration σ) (error : EngineError) :
    Fails emitters (.completed pending (.failed error)) error.message
  /-- The engine broke down. -/
  | panicked (pending : PendingGeneration σ) (message : Option String) :
    Fails emitters (.completed pending (.panicked message))
      ("engine panicked: " ++ message.getD "unknown panic")
  /-- The result could not be written. -/
  | unwritten {pending : PendingGeneration σ} {result : GenerationResult} {error : RenderError}
    (hcode : emitters.render pending.host.language result.code = .error error) :
    Fails emitters (.completed pending (.result result)) error.message

/-- The engine returned a result, with success or not, and it was written. -/
inductive Delivers (emitters : EmitterTable) (success : Bool) : Fate σ → Prop
  | written {pending : PendingGeneration σ} {result : GenerationResult} {code : String}
    (hcode : emitters.render pending.host.language result.code = .ok code)
    (hsuccess : result.success = success) :
    Delivers emitters success (.completed pending (.result result))

variable {emitters : EmitterTable} {fate : Fate σ} {reason : String}

/-- What is displayed after a fate, given the source and tree shown before. -/
def display (emitters : EmitterTable) (code : String) (tree : Option Block) : Fate σ → Display
  | nothing => .empty
  | unbuilt error => .failure error.message code tree
  | completed pending outcome => outcome.display emitters pending.host.language code tree

/-- A failure is displayed with its reason. -/
theorem Fails.display (h : fate.Fails emitters reason) (code : String) (tree : Option Block) :
    fate.display emitters code tree = .failure reason code tree := by
  cases h with
  | unbuilt | failed | panicked => rfl
  | unwritten hcode => simp only [Fate.display, Outcome.display, hcode]

/-- A result is displayed with its source. -/
theorem Delivers.display {success : Bool} (h : fate.Delivers emitters success) (code : String)
    (tree : Option Block) :
    ∃ text result, result.success = success ∧
      fate.display emitters code tree = .ofResult text result := by
  cases h with
  | @written pending result text hcode hsuccess =>
    exact ⟨text, result, hsuccess, by simp only [Fate.display, Outcome.display, hcode]⟩

/-- Nothing is displayed where there is nothing. -/
theorem Clears.display (h : Clears (some fate)) (code : String) (tree : Option Block) :
    fate.display emitters code tree = .empty := by
  cases h <;> rfl

end Fate

/-- What a controller displays. -/
def Controller.display (c : Controller) : Display where
  code := c.code
  tree := c.tree
  state := c.state
  status := c.status

namespace Session

/-- A session with which nothing has been done but to make input calls. -/
structure Fresh (registry : Registry σ) (emitters : EmitterTable) (world : σ) (s : Session σ) :
    Prop where
  /-- The controller tells one story. -/
  controller : s.controller.Coherent
  /-- No generation is in flight. -/
  flight : s.controller.flight = .none
  /-- Nothing is shown. -/
  output : s.controller.output = ("", none)
  /-- No generation was completed. -/
  generations : s.controller.generations = 0
  /-- Nothing was attempted, built or run. -/
  history : s.history = []
  /-- The engines are the given ones. -/
  registry : s.registry = registry
  /-- So are the emitters. -/
  emitters : s.emitters = emitters
  /-- So is the world. -/
  world : s.world = world

/-- An input call leaves a session fresh. -/
theorem Fresh.input {registry : Registry σ} {emitters : EmitterTable} {world : σ} {s : Session σ}
    (h : s.Fresh registry emitters world) (now : Time) (input : Input) :
    (s.input now input).1.Fresh registry emitters world := by
  rw [input_eq]
  cases s.controller.inputs.give s.registry.catalog input with
  | error error => exact h
  | ok next =>
    have hwith := h.controller.withInputs next.1
    have hflight : (s.controller.take next now).flight = .none := by
      unfold Controller.take
      split
      · exact (hwith.markChanged_of_not_live (by simp [h.flight]) now).2
      · exact h.flight
    exact ⟨h.controller.take next now, hflight, (Controller.output_take ..).trans h.output,
      (s.controller.frame_take next now).2.trans h.generations, h.history, h.registry, h.emitters,
      h.world⟩

end Session

namespace Cli

end Cli

end TemplateInspector
