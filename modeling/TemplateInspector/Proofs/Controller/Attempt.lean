import TemplateInspector.Proofs.Controller.Inputs

/-!
# Attempts at a generation

Everything that the beginning of a generation can do. A session with a generation in flight refuses
to begin another one and is left as it is. Otherwise an attempt is made with the reconciled inputs,
and it has one of three ends: there is nothing to generate, the engine cannot be built, or the
generation takes off.
-/

namespace TemplateInspector

variable {σ : Type}

/-- What is recorded of a request for the engine of an identifier. -/
def Instantiation.activities (id : String) : Instantiation σ → List Activity
  | .kept _ => []
  | .built _ => [.built id true]
  | .failed _ => [.built id false]

/-- The host that the selection and the mode ask for. -/
def Controller.host (c : Controller) : Host :=
  { language := c.selection.language, designTime := c.designTime }

/-- Whatever engine makes it, a host is configured as the selection and the mode ask for, because a
fresh one names no language. -/
@[simp] theorem Controller.configure_createHost (c : Controller) (engine : Engine σ) :
    c.configure engine.createHost = c.host := by
  rw [configure, engine.unconfigured, Option.or_none, host]

namespace Session

@[simp] theorem record_nil (s : Session σ) : s.record [] = s := by
  simp [record]

@[simp] theorem controller_record (s : Session σ) (activities : List Activity) :
    (s.record activities).controller = s.controller := rfl

@[simp] theorem history_record (s : Session σ) (activities : List Activity) :
    (s.record activities).history = s.history ++ activities := rfl

/-- The session once an attempt has started: what was given up is reclaimed, the timer is stopped,
the selection is reconciled, and the attempt is recorded with its inputs. -/
def startAttempt (s : Session σ) : Session σ :=
  let c := s.controller.reclaim.1.startAttempt s.registry.catalog
  { s with controller := c }.record [.attempted c.text c.selection c.designTime]

/-- The rest of an attempt that has started. -/
def concludeAttempt (s : Session σ) : Session σ × Option (PendingGeneration σ) :=
  match if s.controller.text.isEmpty then none else s.controller.selection.engine with
  | none => ({ s with controller := s.controller.clearOutput }, none)
  | some id =>
    match s.registry.instantiate id s.world with
    | (none, _, _) => ({ s with controller := s.controller.clearOutput }, none)
    | (some instantiation, registry, world) =>
      let s := { s with registry, world }
      match instantiation with
      | .failed error =>
        ({ s with controller := s.controller.fail error.message }.record [.built id false], none)
      | .built engine =>
        ({ s with controller := s.controller.takeOff }.record [.built id true],
          some ⟨id, engine, s.controller.host, s.controller.text⟩)
      | .kept engine =>
        ({ s with controller := s.controller.takeOff },
          some ⟨id, engine, s.controller.host, s.controller.text⟩)

/-- How an attempt that has started can end, and what is then in flight. -/
inductive Attempt (s : Session σ) : Session σ → Option (PendingGeneration σ) → Prop
  /-- The template is empty or no engine is selected that is registered. -/
  | nothing (h : s.controller.text.isEmpty = true ∨
      ∀ id, s.controller.selection.engine = some id → s.registry.get? id = none) :
      Attempt s { s with controller := s.controller.clearOutput } none
  /-- The engine cannot be built. -/
  | unbuilt {id : String} {error : EngineError} {registry : Registry σ} {world : σ}
      (htext : s.controller.text.isEmpty = false)
      (hid : s.controller.selection.engine = some id)
      (h : s.registry.instantiate id s.world = (some (.failed error), registry, world)) :
      Attempt s
        ({ s with registry, world, controller := s.controller.fail error.message }.record
          [.built id false]) none
  /-- The generation takes off with an engine that was kept or built. -/
  | begun {id : String} {instantiation : Instantiation σ} {engine : Engine σ}
      {registry : Registry σ} {world : σ}
      (htext : s.controller.text.isEmpty = false)
      (hid : s.controller.selection.engine = some id)
      (h : s.registry.instantiate id s.world = (some instantiation, registry, world))
      (hengine : instantiation.engine = .ok engine) :
      Attempt s
        ({ s with registry, world, controller := s.controller.takeOff }.record
          (instantiation.activities id))
        (some ⟨id, engine, s.controller.host, s.controller.text⟩)

/-- There is nothing to instantiate where nothing is registered. -/
theorem get?_of_instantiate {registry next : Registry σ} {id : String} {world after : σ}
    (h : registry.instantiate id world = (none, next, after)) : registry.get? id = none := by
  unfold Registry.instantiate at h
  split at h
  · assumption
  · simp only [Prod.mk.injEq, reduceCtorEq, false_and] at h

/-- An attempt that has started comes to one of its ends. -/
theorem attempt_concludeAttempt (s : Session σ) :
    Attempt s s.concludeAttempt.1 s.concludeAttempt.2 := by
  cases htext : s.controller.text.isEmpty with
  | true =>
    simp only [concludeAttempt, htext, ite_true]
    exact .nothing (.inl htext)
  | false =>
    cases hid : s.controller.selection.engine with
    | none =>
      simp only [concludeAttempt, htext, hid, Bool.false_eq_true, ite_false]
      exact .nothing (.inr fun id h => by simp only [hid, reduceCtorEq] at h)
    | some id =>
      rcases hmade : s.registry.instantiate id s.world with ⟨made, registry, world⟩
      cases made with
      | none =>
        simp only [concludeAttempt, htext, hid, hmade, Bool.false_eq_true, ite_false]
        refine .nothing (.inr fun other h => ?_)
        rw [hid, Option.some.injEq] at h
        exact h ▸ get?_of_instantiate hmade
      | some instantiation =>
        cases instantiation with
        | failed error =>
          simp only [concludeAttempt, htext, hid, hmade, Bool.false_eq_true, ite_false]
          exact .unbuilt htext hid hmade
        | built engine =>
          simp only [concludeAttempt, htext, hid, hmade, Bool.false_eq_true, ite_false]
          exact .begun htext hid hmade rfl
        | kept engine =>
          simp only [concludeAttempt, htext, hid, hmade, Bool.false_eq_true, ite_false]
          simpa only [Instantiation.activities, record_nil] using Attempt.begun htext hid hmade rfl

/-- A generation that is in flight keeps another one from beginning. -/
theorem begin_of_generating {s : Session σ} (h : s.controller.reclaim.1.state = .generating) :
    s.begin = ({ s with controller := s.controller.reclaim.1 }, none) := by
  simp only [Session.begin, h, ite_true]

/-- With no generation in flight an attempt is started and concluded. -/
theorem begin_of_not_generating {s : Session σ}
    (h : s.controller.reclaim.1.state ≠ .generating) :
    s.begin = s.startAttempt.concludeAttempt := by
  simp only [Session.begin, h, ite_false, Controller.configure_createHost]
  rfl

end Session

end TemplateInspector
