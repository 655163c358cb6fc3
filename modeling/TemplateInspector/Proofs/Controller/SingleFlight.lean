import TemplateInspector.Proofs.Controller.Fate

/-!
# One generation at a time

A driver never holds more than one generation, and while it holds one nothing else can be begun: to
begin, to poll and to flush do nothing then. Every generation that was begun is completed once,
given up, or still held. The count of a controller and the calls of engines in the history are those
of the completed ones, in the order of their completion.
-/

namespace TemplateInspector

variable {σ : Type} {α : Type}

namespace Drive

/-- The generations that an action completes. -/
def completed (d : Drive σ) (action : Action σ) : List (PendingGeneration σ) :=
  Fate.generations (d.fate? action)

/-- The generations that an action begins. What a poll or a flush begins is completed by it. -/
def begun (d : Drive σ) : Action σ → List (PendingGeneration σ)
  | .begin => d.session.begin.2.toList
  | .poll now => d.completed (.poll now)
  | .flush now => d.completed (.flush now)
  | .edit .. | .complete _ | .abandon | .drift _ => []

/-- The generations that an action gives up. -/
def abandoned (d : Drive σ) : Action σ → List (PendingGeneration σ)
  | .abandon => d.held.take 1
  | _ => []

/-- What each of some actions yields, one after another. -/
def gather (what : Drive σ → Action σ → List α) (d : Drive σ) : List (Action σ) → List α
  | [] => []
  | action :: actions => what d action ++ gather what (d.step action) actions

/-- What was held or is begun by an action is completed or given up by it, or held afterwards. -/
theorem begun_perm (d : Drive σ) (action : Action σ) :
    (d.held ++ d.begun action).Perm
      (d.completed action ++ d.abandoned action ++ (d.step action).held) := by
  have hmoved (made : List (PendingGeneration σ)) :
      (d.held ++ made).Perm (made ++ [] ++ d.held) := by
    rw [List.append_nil]
    exact List.perm_append_comm
  cases action with
  | edit edit now => exact hmoved []
  | drift world => exact hmoved []
  | poll now => exact hmoved (d.completed (.poll now))
  | flush now => exact hmoved (d.completed (.flush now))
  | begin =>
    have hcompleted : d.completed .begin = [] := by
      simp only [completed, fate?]
      split
      · exact d.session.generations_setback?
      · rfl
    rw [hcompleted]
    exact List.Perm.refl _
  | complete now =>
    rcases hheld : d.held with _ | ⟨pending, others⟩ <;>
      simp [completed, begun, abandoned, fate?, step, hheld, Session.conclusion, Fate.generations]
  | abandon =>
    rcases hheld : d.held with _ | ⟨pending, others⟩ <;>
      simp [completed, begun, abandoned, fate?, step, hheld, Fate.generations]

/-- What was held or is begun in a run is completed or given up in it, or held at its end. -/
theorem gather_begun_perm (d : Drive σ) (actions : List (Action σ)) :
    (d.held ++ gather begun d actions).Perm
      (gather completed d actions ++ gather abandoned d actions ++ (d.perform actions).held) := by
  induction actions generalizing d with
  | nil => simp [gather]
  | cons action actions ih =>
    have hfirst := (d.begun_perm action).append_right (gather begun (d.step action) actions)
    have hrest := (ih (d.step action)).append_left (d.completed action ++ d.abandoned action)
    simp only [List.append_assoc] at hfirst hrest
    simp only [gather, perform_cons, List.append_assoc]
    refine (hfirst.trans hrest).trans (List.Perm.append_left _ ?_)
    -- What the rest of the run completes goes before what the first action gives up.
    exact List.perm_append_comm_assoc ..

/-- In a run every completed generation is counted and its engine called once, and nothing else is
counted or called. -/
theorem calls_perform {d : Drive σ} (h : d.Coherent) (actions : List (Action σ)) :
    (d.perform actions).session.calls =
        d.session.calls ++ (gather completed d actions).map PendingGeneration.request ∧
      (d.perform actions).controller.generations =
        d.controller.generations + (gather completed d actions).length := by
  induction actions generalizing d with
  | nil => simp [gather]
  | cons action actions ih =>
    obtain ⟨hcalls, hcount⟩ := ih (h.step action)
    have hmeets := meets_step h action
    have hone : (d.step action).controller.generations =
        d.controller.generations + (d.completed action).length := hmeets.count
    refine ⟨?_, ?_⟩
    · rw [perform_cons, hcalls, hmeets.calls, gather, List.map_append, List.append_assoc]
      rfl
    · rw [perform_cons, hcount, hone, gather, List.length_append, Nat.add_assoc]

/-- A run never holds more than one generation. While it holds one, none can be begun, and to begin,
to poll and to flush leave the whole session as it is. The count of generations is the number of
completed ones and of the calls of engines, and the calls are what the completed ones asked for, in
order. What was begun is completed, given up or held; so what was given up was neither called nor
counted. -/
theorem single_flight (settings : ControllerSettings) (registry : Registry σ)
    (emitters : EmitterTable) (world : σ) (actions : List (Action σ)) :
    let start := start settings registry emitters world
    let last := start.perform actions
    last.held.length ≤ 1 ∧
      (last.held ≠ [] → last.session.begin = (last.session, none) ∧
        ∀ now, last.session.poll now = (last.session, false) ∧
          last.session.flush now = last.session) ∧
      last.controller.generations = (gather completed start actions).length ∧
      last.controller.generations = last.session.calls.length ∧
      last.session.calls = (gather completed start actions).map PendingGeneration.request ∧
      (gather begun start actions).Perm
        (gather completed start actions ++ gather abandoned start actions ++ last.held) := by
  intro start last
  have hstart : start.Coherent := coherent_start settings registry emitters world
  have hlast : last.Coherent := hstart.perform actions
  obtain ⟨hcalls, hcount⟩ := calls_perform hstart actions
  have hnone : start.session.calls = [] := rfl
  have hzero : start.controller.generations = 0 := rfl
  rw [hnone, List.nil_append] at hcalls
  rw [hzero, Nat.zero_add] at hcount
  refine ⟨hlast.single, ?_, hcount, ?_, hcalls, start.gather_begun_perm actions⟩
  · intro hheld
    have hlive := hlast.live.mpr hheld
    exact ⟨Session.begin_of_live hlast.controller hlive, fun now =>
      ⟨Session.poll_of_live hlast.controller hlive now,
        Session.flush_of_live hlast.controller hlive now⟩⟩
  · rw [hcalls, List.length_map]
    exact hcount

/-- A generation is held after one was completed and another was given up. -/
theorem single_flight_held :
    let actions : List (Action Rehearsal) :=
      [.edit (.input (.text "x")) 5, .flush 2, .edit (.input (.text "xy")) 1, .begin, .abandon,
        .begin]
    let last := (rehearse [.errors]).perform actions
    last.held ≠ [] ∧ last.session.begin = (last.session, none) ∧
      last.session.poll 101 = (last.session, false) ∧ last.session.flush 3 = last.session ∧
      last.controller.generations = 1 := by
  have hone : ((rehearse [.errors]).perform [.edit (.input (.text "x")) 5, .flush 2,
      .edit (.input (.text "xy")) 1, .begin, .abandon, .begin]).controller.generations = 1 := by
    decide
  intro actions last
  have hheld : last.held ≠ [] := List.cons_ne_nil _ _
  obtain ⟨hbegin, hidle⟩ := (single_flight {} _ _ _ actions).2.1 hheld
  exact ⟨hheld, hbegin, (hidle 101).1, (hidle 3).2, hone⟩

end Drive

end TemplateInspector
