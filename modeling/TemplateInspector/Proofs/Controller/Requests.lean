import TemplateInspector.Proofs.Controller.Deselection
import TemplateInspector.Proofs.Engine.Course

/-!
# Requests of a driven session

A session asks an entry for its engine in attempts at a generation only, and an attempt that has
nothing to generate asks none. No attempt is made while a generation is held or by a poll that is
not due. What the entry that is asked makes of itself and of the world is all that becomes of the
registry and of the record of builds.
-/

namespace TemplateInspector

variable {σ τ : Type}

namespace Session

/-- The entry that an attempt asks for its engine. -/
def asked? (s : Session σ) : Option (EngineEntry σ) :=
  if s.controller.text.isEmpty then none else s.chosen?

/-- With a template, the entry of the reconciled engine is asked. -/
theorem asked?_eq_some_iff {s : Session σ} {entry : EngineEntry σ} :
    s.asked? = some entry ↔ s.controller.text ≠ "" ∧ s.chosen? = some entry := by
  by_cases htext : s.controller.text = "" <;> simp [asked?, htext]

/-- No entry is asked if there is nothing to generate. -/
theorem asked?_eq_none_iff {s : Session σ} :
    s.asked? = none ↔ s.controller.text = "" ∨ s.registry.isEmpty = true := by
  have hchosen : s.chosen? = none ↔ s.registry.isEmpty = true := by
    rw [← Option.not_isSome_iff_eq_none, chosen?_isSome_iff, Bool.not_eq_false]
  rw [← hchosen]
  by_cases htext : s.controller.text = "" <;> simp [asked?, htext]

/-- The entry that is asked is registered. -/
theorem get?_of_asked? {s : Session σ} {entry : EngineEntry σ} (h : s.asked? = some entry) :
    s.registry.get? entry.id = some entry :=
  (chosen?_eq_some (asked?_eq_some_iff.mp h).2).2

/-- Which entry is asked depends on the inputs and the registered engines only. -/
theorem Idles.asked?_eq {s s' : Session σ} (h : s.Idles s') : s'.asked? = s.asked? := by
  obtain ⟨htext, hselection, -⟩ := Inputs.mk.inj h.inputs
  simp only [asked?, chosen?, htext, hselection, h.registry]

/-- Reclaiming is no change of the world. -/
theorem world_reclaimAt (s : Session σ) (now : Time) : (s.reclaimAt now).world = s.world := by
  unfold reclaimAt
  split <;> rfl

/-- An entry was asked for its engine, or none was, and nothing else changed the registry and what
is recorded of builds. -/
structure Asks (s : Session (Ledger τ)) (asked : Option (EngineEntry (Ledger τ)))
    (s' : Session (Ledger τ)) : Prop where
  /-- The entry takes its own place. -/
  registry : s'.registry =
    asked.elim s.registry fun entry => s.registry.replace (entry.request s.world).2.1
  /-- Its factory has recorded what it did. -/
  builds : s'.world.builds = (asked.elim s.world fun entry => (entry.request s.world).2.2).builds

/-- A generation has the engine with which a request was answered. -/
def Supplies (s : Session σ) (asked : Option (EngineEntry σ)) (pending : PendingGeneration σ) :
    Prop :=
  ∃ entry ∈ asked, (entry.request s.world).1.engine = .ok pending.engine

/-- The beginning of a generation asks one entry at most, and begins with the engine of the answer.
-/
theorem asks_begin {s : Session (Ledger τ)} (h : s.controller.Coherent)
    (hlive : s.controller.flight ≠ .live) :
    s.Asks s.asked? s.begin.1 ∧ ∀ pending ∈ s.begin.2, s.Supplies s.asked? pending := by
  cases hasked : s.asked? with
  | none =>
    rw [begin_of_nothing h hlive (asked?_eq_none_iff.mp hasked)]
    exact ⟨⟨rfl, rfl⟩, by simp⟩
  | some entry =>
    obtain ⟨htext, hchosen⟩ := asked?_eq_some_iff.mp hasked
    rw [begin_eq_of_chosen h hlive htext hchosen]
    refine ⟨⟨rfl, rfl⟩, fun pending hpending => ⟨entry, rfl, ?_⟩⟩
    cases hengine : (entry.request s.world).1.engine with
    | error error => simp [hengine, Except.toOption] at hpending
    | ok engine =>
      rw [hengine] at hpending
      cases hpending
      rfl

/-- Completing a generation asks no entry. -/
theorem asks_complete (s : Session (Ledger τ)) {pending : PendingGeneration (Ledger τ)}
    (hengine : pending.engine.Discreet) (now : Time) : s.Asks none (s.complete pending now) :=
  ⟨rfl, hengine pending.source pending.host s.world⟩

/-- An entry that is asked first may be followed by what asks none. -/
theorem Asks.trans {s s' s'' : Session (Ledger τ)} {asked : Option (EngineEntry (Ledger τ))}
    (h : s.Asks asked s') (h' : s'.Asks none s'') : s.Asks asked s'' :=
  ⟨h'.registry.trans h.registry, h'.builds.trans h.builds⟩

/-- What asks no entry may come first as well. -/
theorem Asks.of_idles {s s' s'' : Session (Ledger τ)} {asked : Option (EngineEntry (Ledger τ))}
    (h : s'.Asks asked s'') (hidles : s.Idles s') (hworld : s'.world = s.world) :
    s.Asks asked s'' := by
  obtain ⟨hregistry, hbuilds⟩ := h
  rw [hidles.registry, hworld] at hregistry
  rw [hworld] at hbuilds
  exact ⟨hregistry, hbuilds⟩

variable [Inhabited τ]

/-- A generation that is run asks one entry at most, when it begins. -/
theorem asks_run {s : Session (Ledger τ)} (h : s.controller.Coherent)
    (hlive : s.controller.flight ≠ .live)
    (hrecorded : ∀ entry ∈ s.registry.entries, entry.Recorded) (now : Time) :
    s.Asks s.asked? (s.run now) := by
  obtain ⟨hbegin, hsupplies⟩ := asks_begin h hlive
  rcases hs : s.begin with ⟨s', _ | pending⟩
  · simpa only [run, hs] using hbegin
  · obtain ⟨entry, hasked, hanswer⟩ := hsupplies pending (by rw [hs]; rfl)
    have hentry : entry ∈ s.registry.entries := List.mem_of_find?_eq_some (get?_of_asked? hasked)
    have hdiscreet := ((hrecorded entry hentry).request s.world).2.2 pending.engine hanswer
    rw [hs] at hbegin
    simp only [run, hs]
    exact hbegin.trans (s'.asks_complete hdiscreet now)

/-- Flushing asks one entry at most. -/
theorem asks_flush {s : Session (Ledger τ)} (h : s.controller.Coherent)
    (hlive : s.controller.flight ≠ .live)
    (hrecorded : ∀ entry ∈ s.registry.entries, entry.Recorded) (now : Time) :
    s.Asks s.asked? (s.flush now) := by
  have hreclaimed : s.reclaimed.controller.flight ≠ .live :=
    (not_congr Controller.flight_reclaim_eq_live_iff).mpr hlive
  have hrun : s.reclaimed.Asks s.reclaimed.asked? (s.reclaimed.run now) :=
    asks_run h.reclaim hreclaimed hrecorded now
  rw [← s.idles_reclaimed.asked?_eq]
  exact hrun.of_idles s.idles_reclaimed rfl

/-- Polling asks one entry at most, and none if the timer is not due. -/
theorem asks_poll {s : Session (Ledger τ)} (h : s.controller.Coherent)
    (hrecorded : ∀ entry ∈ s.registry.entries, entry.Recorded) (now : Time) :
    s.Asks (if (s.poll now).2 then s.asked? else none) (s.poll now).1 := by
  have hidles := s.idles_reclaimAt now
  have hworld := s.world_reclaimAt now
  obtain ⟨hcoherent, -⟩ := coherent_reclaimAt h now
  rcases poll_eq_run_or_idle h now with ⟨-, hlive, hpoll⟩ | ⟨-, hpoll⟩
  · have hrun := asks_run hcoherent hlive (by rwa [hidles.registry]) now
    rw [hpoll, if_pos rfl, ← hidles.asked?_eq]
    exact hrun.of_idles hidles hworld
  · rw [hpoll]
    exact ⟨hidles.registry, congrArg Ledger.builds hworld⟩

end Session

/-- What a driver does, or the world on its own. -/
inductive Operation (τ : Type)
  /-- An input call is made. -/
  | input (input : Input) (now : Time)
  /-- A generation is begun. -/
  | begin
  /-- The generation that is held is completed. -/
  | complete (now : Time)
  /-- The generation that is held is given up. -/
  | abandon
  /-- A generation is asked for if the timer is due. -/
  | poll (now : Time)
  /-- A generation is asked for at once. -/
  | flush (now : Time)
  /-- What factories and engines act on changes. -/
  | drift (world : τ)

/-- An operation as an action, with the record of builds as it is. -/
def Operation.action (ledger : Ledger τ) : Operation τ → Action (Ledger τ)
  | .input call now => .edit (.input call) now
  | .begin => .begin
  | .complete now => .complete now
  | .abandon => .abandon
  | .poll now => .poll now
  | .flush now => .flush now
  | .drift world => .drift { ledger with world }

namespace Drive

/-- The entry that an action asks for its engine. Only attempts ask, and none is made while a
generation is held or by a poll that is not due. -/
def asked? (d : Drive σ) : Action σ → Option (EngineEntry σ)
  | .begin | .flush _ => if d.held.isEmpty then d.session.asked? else none
  | .poll now => if (d.session.poll now).2 then d.session.asked? else none
  | .edit .. | .complete _ | .abandon | .drift _ => none

/-- The entry that an action asks is registered. -/
theorem get?_of_asked? {d : Drive σ} {action : Action σ} {entry : EngineEntry σ}
    (h : d.asked? action = some entry) : d.session.registry.get? entry.id = some entry := by
  have hasked : d.session.asked? = some entry := by
    cases action with
    | begin | flush | poll =>
      simp only [asked?] at h
      split at h
      · exact h
      · contradiction
    | edit | complete | abandon | drift => contradiction
  exact Session.get?_of_asked? hasked

variable [Inhabited τ]

/-- An operation asks the entry that it names. What is held afterwards was held before, or has the
engine of the answer. -/
theorem asks_step {d : Drive (Ledger τ)} (h : d.Coherent)
    (hrecorded : ∀ entry ∈ d.session.registry.entries, entry.Recorded)
    (hheld : ∀ pending ∈ d.held, pending.engine.Discreet) (operation : Operation τ) :
    let action := operation.action d.session.world
    d.session.Asks (d.asked? action) (d.step action).session ∧
      ∀ pending ∈ (d.step action).held,
        pending ∈ d.held ∨ d.session.Supplies (d.asked? action) pending := by
  intro action
  have hlive : d.held.isEmpty = true ↔ d.session.controller.flight ≠ .live := by
    rw [List.isEmpty_iff, Ne, ← controller, h.live, Decidable.not_not]
  cases operation with
  | input input now =>
    have hworld := (d.session.frame_edit now (.input input)).1
    exact ⟨⟨d.session.registry_input now input, congrArg Ledger.builds hworld⟩, fun _ => .inl⟩
  | drift world => exact ⟨⟨rfl, rfl⟩, fun _ => .inl⟩
  | abandon =>
    simp only [action, Operation.action, Drive.step]
    rcases hpending : d.held with _ | ⟨pending, others⟩
    · exact ⟨⟨rfl, rfl⟩, fun _ => by simp [hpending]⟩
    · exact ⟨⟨rfl, rfl⟩, fun other hother => .inl (List.mem_cons_of_mem _ hother)⟩
  | complete now =>
    simp only [action, Operation.action, Drive.step]
    rcases hpending : d.held with _ | ⟨pending, others⟩
    · exact ⟨⟨rfl, rfl⟩, fun _ => by simp [hpending]⟩
    · exact ⟨d.session.asks_complete (hheld pending (by simp [hpending])) now,
        fun other hother => .inl (List.mem_cons_of_mem _ hother)⟩
  | begin =>
    simp only [action, Operation.action, asked?]
    by_cases hfree : d.held = []
    · obtain ⟨hasks, hsupplies⟩ :=
        Session.asks_begin h.controller (hlive.mp (List.isEmpty_iff.mpr hfree))
      rw [if_pos (List.isEmpty_iff.mpr hfree)]
      refine ⟨hasks, fun pending hpending => ?_⟩
      rcases List.mem_append.mp hpending with hold | hnew
      · exact .inl hold
      · exact .inr (hsupplies pending (Option.mem_toList.mp hnew))
    · rw [h.step_begin_of_held hfree, if_neg (mt List.isEmpty_iff.mp hfree)]
      exact ⟨⟨rfl, rfl⟩, fun _ => .inl⟩
  | flush now =>
    refine ⟨?_, fun _ => .inl⟩
    simp only [action, Operation.action, asked?, Drive.step]
    by_cases hfree : d.held.isEmpty = true
    · rw [if_pos hfree]
      exact Session.asks_flush h.controller (hlive.mp hfree) hrecorded now
    · have hbusy := h.live.mpr (mt List.isEmpty_iff.mpr hfree)
      rw [if_neg hfree, Session.flush_of_live h.controller hbusy]
      exact ⟨rfl, rfl⟩
  | poll now => exact ⟨Session.asks_poll h.controller hrecorded now, fun _ => .inl⟩

end Drive

end TemplateInspector
