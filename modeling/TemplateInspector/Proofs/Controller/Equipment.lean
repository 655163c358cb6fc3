import TemplateInspector.Proofs.Controller.Handover
import TemplateInspector.Proofs.Engine.Acceptance

/-!
# Generations with a usable host

Over a registry of sound entries every generation that takes off has an engine that accepts its
host: the selection was reconciled, so its language is one that the engine declares. Other edits may
follow before the generation is completed, and the engine may be removed, but host and engine were
handed over together. So no attempt fails of its host.
-/

namespace TemplateInspector

variable {σ : Type}

/-- The engine of a generation accepts its host. -/
def PendingGeneration.Usable (pending : PendingGeneration σ) : Prop :=
  ∃ languages language, pending.engine.Accepts languages ∧
    pending.host.requireSupported languages = .ok language

/-- Whether an outcome is an error that lies with the host. -/
def Outcome.isHostFault : Outcome → Bool
  | failed error => error.isHostFault
  | result _ | declined | panicked _ => false

/-- A fate of which the host is not to blame. -/
def Fate.Sound : Fate σ → Prop
  | nothing => True
  | unbuilt error => error.isHostFault = false
  | completed pending outcome => pending.Usable ∧ outcome.isHostFault = false

/-- An edit that registers none but sound entries. -/
def Edit.Sound : Edit σ → Prop
  | register entry => entry.Sound
  | input _ | unregister _ | reportFailure _ => True

/-- An action that registers none but sound entries. -/
def Action.Sound : Action σ → Prop
  | edit made _ => made.Sound
  | begin | complete _ | abandon | poll _ | flush _ | drift _ => True

/-- A usable host has a language, so what is written is not refused for want of one. -/
theorem PendingGeneration.Usable.render {pending : PendingGeneration σ} (h : pending.Usable)
    (emitters : EmitterTable) (unit : SourceUnit) :
    emitters.render pending.host.language unit ≠ .error (.engine .hostNotConfigured) := by
  obtain ⟨languages, language, -, hsupported⟩ := h
  rw [Host.language_of_requireSupported hsupported, EmitterTable.render]
  split
  · simp
  · split <;> simp

namespace Session

/-- Whatever becomes of a generation with a usable host, the host is not to blame. -/
theorem sound_conclusion {pending : PendingGeneration σ} (h : pending.Usable) (s : Session σ) :
    (s.conclusion pending).Sound := by
  refine ⟨h, ?_⟩
  obtain ⟨languages, language, haccepts, hsupported⟩ := h
  have haccepted := haccepts.accepted pending.source pending.host s.world language hsupported
  cases houtcome : (pending.engine.generate pending.source pending.host s.world).1 with
  | failed error => exact haccepted error houtcome
  | result | declined | panicked => rfl

/-- With a selection that fits, an attempt that takes off has a usable host. -/
theorem Attempt.usable {s s' : Session σ} {pending : Option (PendingGeneration σ)}
    (hattempt : Attempt s s' pending) (hfits : s.Fits) (h : s.registry.Sound) :
    s'.registry.Sound ∧ ∀ begun ∈ pending, begun.Usable := by
  cases hattempt with
  | nothing => exact ⟨h, by simp⟩
  | unbuilt _ _ hmade => exact ⟨(h.instantiate hmade).1, by simp⟩
  | @begun id instantiation engine registry world _ hid hmade hengine =>
    obtain ⟨hnext, entry, hentry, hsound, rfl⟩ := h.instantiate hmade
    refine ⟨hnext, fun begun hbegun => ?_⟩
    cases hbegun
    have haccepts := hsound.accepts s.world engine hengine
    -- The language that fits is the entry's own, and there is one.
    obtain ⟨descriptor, hfind, hchooses⟩ := hfits id hid
    rw [Registry.findEngine?_catalog, hentry, Option.map_some, Option.some.injEq] at hfind
    subst hfind
    have hrequire : s.controller.host.requireSupported entry.descriptor.languages = _ :=
      Host.requireSupported_of_chooses hchooses
    cases hlanguage : s.controller.host.language with
    | none => exact absurd (hchooses.eq_none_iff.mp hlanguage) hsound.declarable.nonempty
    | some language =>
      rw [hlanguage] at hrequire
      exact ⟨_, language, haccepts, hrequire⟩

/-- A generation that begins has a usable host, and the registry stays sound. -/
theorem usable_begin {s : Session σ} (h : s.registry.Sound) :
    s.begin.1.registry.Sound ∧ ∀ begun ∈ s.begin.2, begun.Usable := by
  by_cases hgenerating : s.controller.reclaim.1.state = .generating
  · rw [begin_of_generating hgenerating]
    exact ⟨h, by simp⟩
  · rw [begin_of_not_generating hgenerating]
    exact (attempt_concludeAttempt s.startAttempt).usable s.fits_startAttempt h

/-- An attempt that comes to nothing does not fail of a host. -/
theorem sound_setback? {s : Session σ} (h : s.registry.Sound) :
    ∀ fate ∈ s.setback?, fate.Sound := by
  intro fate hfate
  unfold setback? at hfate
  split at hfate
  · cases hfate
    trivial
  · split at hfate
    case h_1 error hsupply =>
      cases hfate
      obtain ⟨id, -, hanswer⟩ := Option.bind_eq_some_iff.mp hsupply
      obtain ⟨-, entry, -, hsound, hrequest⟩ :=
        h.instantiate (Prod.ext hanswer rfl : s.registry.instantiate id s.world = (_, _, _))
      refine hsound.unbuilt s.world error ?_
      rw [← hrequest]
      rfl
    case h_2 => cases hfate

/-- Nor does one whose generation is completed as soon as it has begun. -/
theorem sound_fate? {s : Session σ} (h : s.registry.Sound) : ∀ fate ∈ s.fate?, fate.Sound := by
  intro fate hfate
  rcases Option.or_eq_some_iff.mp hfate with hsetback | ⟨-, hbegun⟩
  · exact sound_setback? h fate hsetback
  · obtain ⟨begun, hbegin, rfl⟩ := Option.map_eq_some_iff.mp hbegun
    exact sound_conclusion ((usable_begin h).2 begun hbegin) s.begin.1

/-- Running a generation keeps the registry sound. -/
theorem sound_run {s : Session σ} (h : s.registry.Sound) (now : Time) :
    (s.run now).registry.Sound := by
  have hbegin := (usable_begin h).1
  rcases s.run_cases now with hrun | ⟨pending, hrun⟩ <;> rw [hrun] <;> exact hbegin

/-- Reclaiming is no change of the registry. -/
@[simp] theorem registry_reclaimAt (s : Session σ) (now : Time) :
    (s.reclaimAt now).registry = s.registry := by
  unfold reclaimAt
  split <;> rfl

/-- An edit that registers none but sound entries keeps the registry sound. -/
theorem sound_edit {s : Session σ} (h : s.registry.Sound) {edit : Edit σ} (hedit : edit.Sound)
    (now : Time) : (s.edit now edit).1.registry.Sound := by
  cases edit with
  | input input =>
    rw [registry_input]
    exact h
  | register entry =>
    simp only [Session.edit, Session.register]
    cases hnext : s.registry.register entry with
    | error error => exact h
    | ok next => exact h.register hedit hnext
  | unregister id => exact h.unregister id
  | reportFailure error => exact h

end Session

namespace Drive

/-- All registered entries are sound, and what is held has a usable host. -/
structure Equipped (d : Drive σ) : Prop where
  registry : d.session.registry.Sound
  held : ∀ pending ∈ d.held, pending.Usable

/-- An action that registers none but sound entries keeps a drive equipped. -/
theorem Equipped.step {d : Drive σ} (h : d.Equipped) {action : Action σ} (haction : action.Sound) :
    (d.step action).Equipped := by
  cases action with
  | edit edit now => exact ⟨Session.sound_edit h.registry haction now, h.held⟩
  | begin =>
    obtain ⟨hregistry, hbegun⟩ := Session.usable_begin h.registry
    refine ⟨hregistry, fun pending hpending => ?_⟩
    rcases List.mem_append.mp hpending with hold | hnew
    · exact h.held pending hold
    · exact hbegun pending (Option.mem_toList.mp hnew)
  | complete now | abandon =>
    rcases hheld : d.held with _ | ⟨pending, others⟩
    · simpa only [Drive.step, hheld] using h
    · simp only [Drive.step, hheld]
      refine ⟨h.registry, fun other hother => h.held other ?_⟩
      rw [hheld]
      exact List.mem_cons_of_mem _ hother
  | poll now =>
    refine ⟨?_, h.held⟩
    simp only [Drive.step, Session.poll]
    split
    · exact Session.sound_run (by simpa using h.registry) now
    · simpa using h.registry
  | flush now => exact ⟨Session.sound_run (s := d.session.reclaimed) h.registry now, h.held⟩
  | drift world => exact ⟨h.registry, h.held⟩

/-- So does a run. -/
theorem Equipped.perform {d : Drive σ} (h : d.Equipped) {actions : List (Action σ)}
    (hactions : ∀ action ∈ actions, action.Sound) : (d.perform actions).Equipped := by
  induction actions generalizing d with
  | nil => exact h
  | cons action actions ih =>
    exact ih (h.step (hactions action List.mem_cons_self))
      fun later hlater => hactions later (List.mem_cons_of_mem _ hlater)

/-- No action fails of a host. -/
theorem Equipped.sound_fate? {d : Drive σ} (h : d.Equipped) (action : Action σ) :
    ∀ fate ∈ d.fate? action, fate.Sound := by
  intro fate hfate
  cases action with
  | edit | abandon | drift => cases hfate
  | begin =>
    simp only [Drive.fate?] at hfate
    split at hfate
    · exact Session.sound_setback? h.registry fate hfate
    · cases hfate
  | complete now =>
    obtain ⟨pending, hpending, rfl⟩ := Option.map_eq_some_iff.mp hfate
    exact Session.sound_conclusion (h.held pending (List.mem_of_mem_head? hpending)) d.session
  | poll now =>
    simp only [Drive.fate?] at hfate
    split at hfate
    · exact Session.sound_fate? (by simpa using h.registry) fate hfate
    · cases hfate
  | flush now =>
    simp only [Drive.fate?] at hfate
    split at hfate
    · exact Session.sound_fate? (s := d.session.reclaimed) h.registry fate hfate
    · cases hfate

/-- Every engine of this library and of a plugin declares one language at least, with distinct
identifiers that are not blank, and accepts exactly the languages that it declares. In every run
that starts with these engines and registers none that do otherwise, every engine that is called
accepts the host that it is called with. So no attempt ends for want of a language or with a
language that the engine does not offer. -/
theorem hosts_are_accepted (machine : Machine) (survey : PluginSurvey)
    (settings : ControllerSettings) (emitters : EmitterTable) (world : Machine)
    (actions : List (Action Machine)) (hactions : ∀ action ∈ actions, action.Sound) :
    let registry := (survey.populate machine (Registry.registerBuiltin {} machine.check)).1
    let d := (start settings registry emitters world).perform actions
    (∀ entry ∈ registry.entries, Language.Declarable entry.descriptor.languages ∧
      ∀ world engine, (entry.request world).1.engine = .ok engine →
        engine.Accepts entry.descriptor.languages) ∧
      (∀ action, (d.step action).session.calls =
        d.session.calls ++ (Fate.generations (d.fate? action)).map PendingGeneration.request) ∧
      (∀ action pending outcome, d.fate? action = some (.completed pending outcome) →
        (∃ languages language, pending.engine.Accepts languages ∧
          pending.host.requireSupported languages = .ok language) ∧
        outcome.isHostFault = false ∧
        ∀ unit, emitters.render pending.host.language unit ≠
          .error (.engine .hostNotConfigured)) ∧
      ∀ action error, d.fate? action = some (.unbuilt error) → error.isHostFault = false := by
  intro registry d
  have hregistry : registry.Sound :=
    (Registry.sound_registerBuiltin machine.check).populate machine survey
  have hequipped : d.Equipped :=
    (⟨hregistry, by simp [start]⟩ : (start settings registry emitters world).Equipped).perform
      hactions
  have hcoherent : d.Coherent := (coherent_start settings registry emitters world).perform actions
  refine ⟨fun entry hentry => ?_, fun action => (meets_step hcoherent action).calls, ?_, ?_⟩
  · exact ⟨(hregistry entry hentry).declarable, (hregistry entry hentry).accepts⟩
  · intro action pending outcome hfate
    obtain ⟨husable, houtcome⟩ := hequipped.sound_fate? action _ hfate
    exact ⟨husable, houtcome, husable.render emitters⟩
  · exact fun action error hfate => hequipped.sound_fate? action _ hfate

/-- The engine of a generation that has begun accepts its host, also if it is removed and another
one is registered before the generation is completed. -/
theorem removed_engine_accepts_host :
    let literal : EngineEntry Machine :=
      Registry.builtinEntry Literal.descriptor Literal.generate
    let d := (start {} (loadRegistry {} []) {} {}).perform
      [.edit (.input (.text "x")) 0, .begin, .edit (.unregister "tera") 1,
        .edit (.unregister "literal") 2, .edit (.register literal) 3]
    d.session.registry.ids = ["literal"] ∧
      ∃ pending outcome, d.fate? (.complete 4) = some (.completed pending outcome) ∧
        pending.engineId = "tera" ∧
        (∃ languages language, pending.engine.Accepts languages ∧
          pending.host.requireSupported languages = .ok language) ∧
        outcome.isHostFault = false := by
  intro literal d
  have hactions : ∀ action ∈ [.edit (.input (.text "x")) 0, .begin, .edit (.unregister "tera") 1,
      .edit (.unregister "literal") 2, .edit (.register literal) 3], Action.Sound action := by
    simp only [List.forall_mem_cons]
    exact ⟨trivial, trivial, trivial, trivial, Literal.sound_builtinEntry, by simp⟩
  obtain ⟨-, -, haccepted, -⟩ :=
    hosts_are_accepted {} (.ofSearch {} []) {} {} {} _ hactions
  obtain ⟨pending, outcome, hfate, hid⟩ : ∃ pending outcome,
      d.fate? (.complete 4) = some (.completed pending outcome) ∧ pending.engineId = "tera" :=
    ⟨_, _, rfl, rfl⟩
  obtain ⟨husable, houtcome, -⟩ := haccepted (.complete 4) pending outcome hfate
  exact ⟨by decide +kernel, pending, outcome, hfate, hid, husable, houtcome⟩

end Drive

end TemplateInspector
