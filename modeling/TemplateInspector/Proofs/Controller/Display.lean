import TemplateInspector.Proofs.Controller.Inputs

/-!
# What is shown after an attempt

The end of an attempt sets the generated source, its tree, the state and the status, and nothing
else of a controller. These four are the display. What an engine came to determines the display from
the emitters, the language of the host and the source and tree shown before; inputs, timer and
records take no part.
-/

namespace TemplateInspector

/-- What a controller shows of its last attempt. -/
structure Display where
  /-- The generated source. -/
  code : String
  /-- The tree from which it was generated. -/
  tree : Option Block
  /-- What the controller is doing. -/
  state : ControllerState
  /-- The status line. -/
  status : String
  deriving DecidableEq, Repr

namespace Display

/-- Nothing is shown. -/
def empty : Display := ⟨"", none, .idle, Status.ready⟩

/-- A failure is shown beside what was generated before. -/
def failure (reason code : String) (tree : Option Block) : Display :=
  ⟨code, tree, .failed reason, Status.failure reason⟩

/-- A result is shown that could be written as source. -/
def ofResult (code : String) (result : GenerationResult) : Display :=
  if result.success then ⟨code, some result.document, .succeeded, Status.success⟩
  else ⟨code, some result.document, .failed Status.errors, Status.errors⟩

end Display

/-- The display after an engine came to an outcome, given the source and tree shown before. -/
def Outcome.display (emitters : EmitterTable) (language : Option Language) (code : String)
    (tree : Option Block) : Outcome → Display
  | .result answer =>
    match emitters.render language answer.code with
    | .ok text => .ofResult text answer
    | .error error => .failure error.message code tree
  | .declined => .empty
  | .failed error => .failure error.message code tree
  | .panicked message => .failure ("engine panicked: " ++ message.getD "unknown panic") code tree

namespace Controller

/-- Replaces the display and nothing else. -/
def withDisplay (c : Controller) (display : Display) : Controller :=
  { c with
    code := display.code
    tree := display.tree
    state := display.state
    status := display.status }

theorem clearOutput_eq (c : Controller) : c.clearOutput = c.withDisplay .empty := rfl

theorem fail_eq (c : Controller) (reason : String) :
    c.fail reason = c.withDisplay (.failure reason c.code c.tree) := rfl

/-- An outcome replaces the display and nothing else. -/
theorem absorb_eq (c : Controller) (emitters : EmitterTable) (language : Option Language)
    (outcome : Outcome) :
    c.absorb emitters language outcome =
      c.withDisplay (outcome.display emitters language c.code c.tree) := by
  cases outcome with
  | result result =>
    simp only [absorb, showResult, Outcome.display]
    cases emitters.render language result.code with
    | error error => rfl
    | ok text =>
      unfold Display.ofResult
      cases result.success <;> rfl
  | declined => rfl
  | failed error => rfl
  | panicked message => rfl

/-- The controller when the generation in flight has landed and shows its outcome, before a change
that was recorded meanwhile is taken note of. -/
def landed (c : Controller) (emitters : EmitterTable) (language : Option Language)
    (outcome : Outcome) : Controller :=
  { c with flight := .none, generations := c.generations + 1, changedInFlight := false }.withDisplay
    (outcome.display emitters language c.code c.tree)

/-- A generation lands, and then a recorded change is taken note of like any other. -/
theorem land_eq (c : Controller) (emitters : EmitterTable) (language : Option Language)
    (outcome : Outcome) (now : Time) :
    c.land emitters language outcome now =
      if c.changedInFlight then (c.landed emitters language outcome).markChanged now
      else c.landed emitters language outcome := by
  simp only [land, absorb_eq, withDisplay, landed]
  cases c.changedInFlight <;> rfl

/-- A landing generation leaves the inputs alone. -/
@[simp] theorem inputs_land (c : Controller) (emitters : EmitterTable)
    (language : Option Language) (outcome : Outcome) (now : Time) :
    (c.land emitters language outcome now).inputs = c.inputs := by
  rw [land_eq]
  split
  · rw [inputs_markChanged]
    rfl
  · rfl

/-- What is shown once a generation has landed. -/
theorem output_land (c : Controller) (emitters : EmitterTable) (language : Option Language)
    (outcome : Outcome) (now : Time) :
    (c.land emitters language outcome now).output =
      ((outcome.display emitters language c.code c.tree).code,
        (outcome.display emitters language c.code c.tree).tree) := by
  rw [land_eq]
  split
  · exact output_markChanged ..
  · rfl

end Controller

end TemplateInspector
