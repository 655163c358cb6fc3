import TemplateInspector.Controller.Session

/-!
# The inputs of a controller

Everything that can be edited is one value, the inputs of a controller. An input call is described
by what it makes of the inputs under the catalog of the registered engines. The rest of the
controller learns from it only whether there was a change, and takes note of that one way for all
calls.
-/

namespace TemplateInspector

/-- Two optional descriptions describe the same language exactly if their identifiers agree. -/
theorem Language.sameOption_iff {a b : Option Language} :
    Language.sameOption a b = true ↔ a.map Language.id = b.map Language.id := by
  cases a <;> cases b <;> simp [Language.sameOption, Language.same]

/-- Two selections mean the same exactly if the identifiers of their parts agree. -/
theorem Selection.same_iff_ids {a b : Selection} :
    a.same b = true ↔
      a.engine = b.engine ∧ a.language.map Language.id = b.language.map Language.id := by
  simp [Selection.same, Language.sameOption_iff]

/-- What can be edited. -/
structure Inputs where
  /-- The template. -/
  text : String
  /-- The selected engine and language. -/
  selection : Selection
  /-- Whether the output should map back to the template. -/
  designTime : Bool
  deriving DecidableEq, Repr

/-- A call that edits the inputs. -/
inductive Input
  /-- Replaces the template. -/
  | text (text : String)
  /-- Selects an engine, or none. -/
  | engine (id : Option String)
  /-- Selects a language, or none. -/
  | language (language : Option Language)
  /-- Turns the design-time mode on or off. -/
  | designTime (designTime : Bool)
  /-- Repairs the selection after engines were registered or removed. -/
  | registryChanged
  deriving DecidableEq, Repr

namespace Inputs

/-- Two inputs ask for the same generation: the same template, engine, language and mode. The name
under which a language is shown does not matter. -/
structure Same (a b : Inputs) : Prop where
  /-- The templates agree. -/
  text : a.text = b.text
  /-- The identifiers of the engines agree. -/
  engine : a.selection.engine = b.selection.engine
  /-- The identifiers of the languages agree. -/
  language : a.selection.language.map Language.id = b.selection.language.map Language.id
  /-- The modes agree. -/
  designTime : a.designTime = b.designTime

theorem Same.refl (a : Inputs) : a.Same a := ⟨rfl, rfl, rfl, rfl⟩

theorem Same.trans {a b c : Inputs} (hab : a.Same b) (hbc : b.Same c) : a.Same c :=
  ⟨hab.text.trans hbc.text, hab.engine.trans hbc.engine, hab.language.trans hbc.language,
    hab.designTime.trans hbc.designTime⟩

/-- Takes over a selection. -/
def select (inputs : Inputs) (next : Selection × Bool) : Inputs × Bool :=
  ({ inputs with selection := next.1 }, next.2)

/-- What a call makes of the inputs, and whether that is a change. -/
def give (inputs : Inputs) (catalog : List EngineDescriptor) :
    Input → Except SelectionError (Inputs × Bool)
  | .text text => .ok ({ inputs with text }, text ≠ inputs.text)
  | .engine id => (inputs.selection.selectEngine id catalog).map inputs.select
  | .language language => .ok (inputs.select (inputs.selection.selectLanguage language catalog))
  | .designTime designTime => .ok ({ inputs with designTime }, designTime ≠ inputs.designTime)
  | .registryChanged => .ok (inputs.select (inputs.selection.reconcile catalog))

/-- An engine call that is not refused reports a change exactly if the selection means another
engine or language than before. -/
theorem snd_of_selectEngine {selection : Selection} {catalog : List EngineDescriptor}
    {id : Option String} {next : Selection × Bool}
    (h : selection.selectEngine id catalog = .ok next) : next.2 = !next.1.same selection := by
  cases id with
  | none =>
    cases h
    rfl
  | some name =>
    simp only [Selection.selectEngine] at h
    split at h
    · cases h
      rfl
    · contradiction

/-- A selection call that reports no change keeps the inputs the same. -/
theorem same_of_select {inputs next : Inputs} {made : Selection × Bool}
    (hmade : made.2 = !made.1.same inputs.selection) (h : inputs.select made = (next, false)) :
    next.Same inputs := by
  obtain ⟨rfl, hsnd⟩ := Prod.mk.inj h
  rw [hmade, Bool.not_eq_false'] at hsnd
  obtain ⟨hengine, hlanguage⟩ := Selection.same_iff_ids.mp hsnd
  exact ⟨rfl, hengine, hlanguage, rfl⟩

/-- An engine call that is not refused takes over the selection that is made. -/
theorem selectEngine_of_give {inputs : Inputs} {catalog : List EngineDescriptor}
    {id : Option String} {next : Inputs × Bool}
    (h : inputs.give catalog (.engine id) = .ok next) :
    ∃ made, inputs.selection.selectEngine id catalog = .ok made ∧ inputs.select made = next := by
  simp only [give] at h
  cases hselect : inputs.selection.selectEngine id catalog with
  | error error => simp only [hselect, Except.map, reduceCtorEq] at h
  | ok made => exact ⟨made, rfl, by simpa only [hselect, Except.map, Except.ok.injEq] using h⟩

/-- A call that reports no change leaves the inputs the same. -/
theorem same_of_give {inputs next : Inputs} {catalog : List EngineDescriptor} {input : Input}
    (h : inputs.give catalog input = .ok (next, false)) : next.Same inputs := by
  cases input with
  | text text =>
    simp only [give, Except.ok.injEq, Prod.mk.injEq, decide_eq_false_iff_not,
      Decidable.not_not] at h
    obtain ⟨rfl, htext⟩ := h
    exact ⟨htext, rfl, rfl, rfl⟩
  | designTime designTime =>
    simp only [give, Except.ok.injEq, Prod.mk.injEq, decide_eq_false_iff_not,
      Decidable.not_not] at h
    obtain ⟨rfl, hmode⟩ := h
    exact ⟨rfl, rfl, rfl, hmode⟩
  | language language => exact same_of_select rfl (Except.ok.inj h)
  | registryChanged => exact same_of_select rfl (Except.ok.inj h)
  | engine id =>
    obtain ⟨made, hselect, hnext⟩ := selectEngine_of_give h
    exact same_of_select (snd_of_selectEngine hselect) hnext

end Inputs

namespace Controller

/-- The inputs of a controller. -/
def inputs (c : Controller) : Inputs where
  text := c.text
  selection := c.selection
  designTime := c.designTime

/-- Replaces the inputs and nothing else. -/
def withInputs (c : Controller) (inputs : Inputs) : Controller :=
  { c with
    text := inputs.text
    selection := inputs.selection
    designTime := inputs.designTime }

/-- Takes over inputs and notes whether they are a change. -/
def take (c : Controller) (next : Inputs × Bool) (now : Time) : Controller :=
  if next.2 then (c.withInputs next.1).markChanged now else c.withInputs next.1

theorem take_true (c : Controller) (inputs : Inputs) (now : Time) :
    c.take (inputs, true) now = (c.withInputs inputs).markChanged now := rfl

theorem take_false (c : Controller) (inputs : Inputs) (now : Time) :
    c.take (inputs, false) now = c.withInputs inputs := rfl

@[simp] theorem inputs_withInputs (c : Controller) (inputs : Inputs) :
    (c.withInputs inputs).inputs = inputs := rfl

@[simp] theorem flight_withInputs (c : Controller) (inputs : Inputs) :
    (c.withInputs inputs).flight = c.flight := rfl

/-- Nothing is reclaimed unless a generation was given up. -/
theorem reclaim_of_ne_abandoned {c : Controller} (h : c.flight ≠ .abandoned) :
    c.reclaim = (c, false) := by
  simp only [reclaim, h, ite_false]

/-- What is held is held after the rest was reclaimed. -/
@[simp] theorem flight_reclaim_eq_live_iff {c : Controller} :
    c.reclaim.1.flight = .live ↔ c.flight = .live := by
  unfold reclaim
  split
  case isTrue h => simp only [h, reduceCtorEq]
  case isFalse => rfl

/-- Reclaiming leaves the inputs alone. -/
@[simp] theorem inputs_reclaim (c : Controller) : c.reclaim.1.inputs = c.inputs := by
  unfold reclaim
  split <;> rfl

/-- Arms the timer and waits for it. -/
def rearm (c : Controller) (now : Time) : Controller :=
  { c with
    timer := c.timer.arm now c.settings.debounce
    state := .pending (now + c.settings.debounce) }

/-- A change is recorded while a generation is in flight. Else it arms the timer. -/
theorem markChanged_eq (c : Controller) (now : Time) :
    c.markChanged now =
      if c.reclaim.1.state = .generating then { c.reclaim.1 with changedInFlight := true }
      else c.reclaim.1.rearm now := rfl

/-- Taking note of a change neither begins nor ends a generation. -/
@[simp] theorem flight_markChanged_eq_live_iff {c : Controller} {now : Time} :
    (c.markChanged now).flight = .live ↔ c.flight = .live := by
  rw [markChanged_eq]
  split <;> exact flight_reclaim_eq_live_iff

/-- Taking note of a change leaves the inputs alone. -/
@[simp] theorem inputs_markChanged (c : Controller) (now : Time) :
    (c.markChanged now).inputs = c.inputs := by
  rw [markChanged_eq]
  split <;> exact inputs_reclaim c

/-- The generated source with the tree from which it was generated. -/
def output (c : Controller) : String × Option Block :=
  (c.code, c.tree)

/-- Taking note of a change leaves what is shown alone. -/
@[simp] theorem output_markChanged (c : Controller) (now : Time) :
    (c.markChanged now).output = c.output := by
  have hreclaim : c.reclaim.1.output = c.output := by
    unfold reclaim
    split <;> rfl
  rw [markChanged_eq]
  split <;> exact hreclaim

/-- Taking over inputs leaves what is shown alone. -/
@[simp] theorem output_take (c : Controller) (next : Inputs × Bool) (now : Time) :
    (c.take next now).output = c.output := by
  unfold take
  split
  · exact output_markChanged ..
  · rfl

/-- A controller has the inputs that it took over. -/
@[simp] theorem inputs_take (c : Controller) (next : Inputs × Bool) (now : Time) :
    (c.take next now).inputs = next.1 := by
  unfold take
  split
  · rw [inputs_markChanged, inputs_withInputs]
  · rw [inputs_withInputs]

/-- Taking over inputs neither begins nor ends a generation. -/
@[simp] theorem flight_take_eq_live_iff {c : Controller} {next : Inputs × Bool} {now : Time} :
    (c.take next now).flight = .live ↔ c.flight = .live := by
  unfold take
  split
  · rw [flight_markChanged_eq_live_iff, flight_withInputs]
  · rw [flight_withInputs]

end Controller

namespace Session

variable {σ : Type}

/-- Makes an input call and yields what it returns. -/
def input (s : Session σ) (now : Time) : Input → Session σ × Except SelectionError Bool
  | .text text => (s.setText text now).map id .ok
  | .engine id =>
    match s.selectEngine id now with
    | .ok (s, changed) => (s, .ok changed)
    | .error error => (s, .error error)
  | .language language => (s.selectLanguage language now).map id .ok
  | .designTime designTime => (s.setDesignTime designTime now).map id .ok
  | .registryChanged => (s.registryChanged now).map id .ok

/-- An input call is refused and does nothing, or it gives the inputs to the controller and tells
whether that is a change. Nothing else of the session takes part. -/
theorem input_eq (s : Session σ) (now : Time) (input : Input) :
    s.input now input =
      match s.controller.inputs.give s.registry.catalog input with
      | .ok next => ({ s with controller := s.controller.take next now }, .ok next.2)
      | .error error => (s, .error error) := by
  cases input with
  | text text =>
    by_cases h : text = s.controller.text
    · subst h
      simp [Session.input, setText, Controller.setText, Inputs.give, Controller.inputs,
        Controller.take, Controller.withInputs]
    · simp [Session.input, setText, Controller.setText, Inputs.give, Controller.inputs,
        Controller.take, Controller.withInputs, h]
  | designTime designTime =>
    by_cases h : designTime = s.controller.designTime
    · subst h
      simp [Session.input, setDesignTime, Controller.setDesignTime, Inputs.give, Controller.inputs,
        Controller.take, Controller.withInputs]
    · simp [Session.input, setDesignTime, Controller.setDesignTime, Inputs.give, Controller.inputs,
        Controller.take, Controller.withInputs, h]
  | language language => rfl
  | registryChanged => rfl
  | engine id =>
    simp only [Session.input, selectEngine, Controller.selectEngine, Inputs.give,
      Controller.inputs]
    cases s.controller.selection.selectEngine id s.registry.catalog <;> rfl

end Session

end TemplateInspector
