import TemplateInspector.Proofs.Controller.Fate
import TemplateInspector.Proofs.Controller.Fitting
import TemplateInspector.Proofs.Registry.Validity

/-!
# What a generation is handed

The registry may have changed since the controller last looked at it: the selected engine may be
gone or back with other languages, or none may be selected. An attempt reconciles the selection
first, so a generation that takes off is always handed an engine that is registered, the template
and mode of the moment, and a language of that very engine. How an attempt ends is read off the
template and the entry of the reconciled engine.
-/

namespace TemplateInspector

variable {σ : Type}

/-- A language that may be selected with an engine is one that the engine accepts; without one the
engine is not asked. -/
theorem Host.requireSupported_of_chooses {descriptor : EngineDescriptor} {host : Host}
    (h : descriptor.Chooses host.language) :
    host.requireSupported descriptor.languages =
      match host.language with
      | some language => .ok language
      | none => .error .hostNotConfigured := by
  cases hlanguage : host.language with
  | none => simp [requireSupported, requireLanguage, hlanguage, bind, Except.bind]
  | some language =>
    rw [hlanguage] at h
    have hmem : language ∈ descriptor.languages := List.mem_of_find?_eq_some h
    have hsupported : descriptor.languages.any language.same = true :=
      List.any_eq_true.mpr ⟨language, hmem, Language.same_iff.mpr rfl⟩
    simp [requireSupported, requireLanguage, hlanguage, bind, Except.bind, hsupported]

namespace Registry

/-- Asking for an engine that is registered asks its entry. -/
theorem instantiate_of_get? {registry : Registry σ} {id : String} {entry : EngineEntry σ}
    (h : registry.get? id = some entry) (world : σ) :
    registry.instantiate id world =
      (some (entry.request world).1, registry.replace (entry.request world).2.1,
        (entry.request world).2.2) := by
  simp only [instantiate, h]

end Registry

namespace Session

/-- The entry of the reconciled engine, which an attempt asks for its engine. -/
def chosen? (s : Session σ) : Option (EngineEntry σ) :=
  (s.controller.selection.reconciled s.registry.catalog).engine.bind s.registry.get?

/-- The entry that is asked is registered under the identifier of the reconciled engine. -/
theorem chosen?_eq_some {s : Session σ} {entry : EngineEntry σ} (h : s.chosen? = some entry) :
    (s.controller.selection.reconciled s.registry.catalog).engine = some entry.id ∧
      s.registry.get? entry.id = some entry := by
  obtain ⟨id, hid, hentry⟩ := Option.bind_eq_some_iff.mp h
  cases Registry.id_of_get? hentry
  exact ⟨hid, hentry⟩

/-- There is an entry to ask unless no engine is registered. -/
theorem chosen?_isSome_iff {s : Session σ} : s.chosen?.isSome ↔ s.registry.isEmpty = false := by
  cases hempty : s.registry.isEmpty with
  | true =>
    have hnone (id : String) : s.registry.get? id = none := Registry.get?_of_isEmpty hempty id
    simp [chosen?, hnone]
  | false =>
    obtain ⟨id, entry, hid, hentry⟩ :=
      Registry.exists_get?_reconciled hempty s.controller.selection
    simp [chosen?, hid, hentry]

/-- With an empty template or without engines there is nothing to generate, and no engine is built.
-/
theorem begin_of_nothing {s : Session σ} (h : s.controller.Coherent)
    (hlive : s.controller.flight ≠ .live)
    (hnothing : s.controller.text = "" ∨ s.registry.isEmpty = true) :
    s.begin =
      ({ s.startAttempt with controller := s.startAttempt.controller.clearOutput }, none) := by
  obtain ⟨htext, hselection, -⟩ := s.fields_startAttempt
  have hnone : (if s.startAttempt.controller.text.isEmpty then none
      else s.startAttempt.controller.selection.engine) = none := by
    rcases hnothing with hempty | hempty
    · rw [htext, hempty]
      rfl
    · have hengine : (s.controller.selection.reconciled s.registry.catalog).engine = none :=
        Selection.engine_reconciled_eq_none_iff.mpr (Registry.isEmpty_eq_true_iff.mp hempty)
      rw [hselection, hengine, ite_self]
  rw [begin_of_not_live h hlive, concludeAttempt, hnone]

/-- With something to generate, the entry of the reconciled engine is asked, and nothing else of the
registry and of the world takes part. Its answer decides whether the generation takes off. -/
theorem begin_eq_of_chosen {s : Session σ} (h : s.controller.Coherent)
    (hlive : s.controller.flight ≠ .live) {entry : EngineEntry σ} (htext : s.controller.text ≠ "")
    (hentry : s.chosen? = some entry) :
    s.begin =
      ({ s.startAttempt with
          registry := s.registry.replace (entry.request s.world).2.1
          world := (entry.request s.world).2.2
          controller :=
            match (entry.request s.world).1.engine with
            | .ok _ => s.startAttempt.controller.takeOff
            | .error error => s.startAttempt.controller.fail error.message
        }.record ((entry.request s.world).1.activities entry.id),
        (entry.request s.world).1.engine.toOption.map (s.offer entry.id)) := by
  obtain ⟨htext', hselection, hmode⟩ := s.fields_startAttempt
  obtain ⟨hid, hregistered⟩ := chosen?_eq_some hentry
  have hselected : (if s.startAttempt.controller.text.isEmpty then none
      else s.startAttempt.controller.selection.engine) = some entry.id := by
    have hnonempty : s.controller.text.isEmpty = false := by simpa using htext
    rw [htext', hnonempty, hselection, hid]
    rfl
  have hmade : s.startAttempt.registry.instantiate entry.id s.startAttempt.world =
      (some (entry.request s.world).1, s.registry.replace (entry.request s.world).2.1,
        (entry.request s.world).2.2) :=
    Registry.instantiate_of_get? hregistered s.world
  have hoffer (engine : Engine σ) : (⟨entry.id, engine, s.startAttempt.controller.host,
      s.startAttempt.controller.text⟩ : PendingGeneration σ) = s.offer entry.id engine := by
    simp only [offer, Controller.host, htext', hselection, hmode]
  rw [begin_of_not_live h hlive]
  simp only [concludeAttempt, hselected, hmade]
  cases (entry.request s.world).1 with
  | failed error => rfl
  | built engine => exact congrArg (Prod.mk _ <| some ·) (hoffer engine)
  | kept engine =>
    simp only [Instantiation.activities, record_nil]
    exact congrArg (Prod.mk _ <| some ·) (hoffer engine)

/-- With something to generate, the answer of the entry that is asked decides whether the generation
takes off. -/
theorem begin_of_chosen {s : Session σ} (h : s.controller.Coherent)
    (hlive : s.controller.flight ≠ .live) {entry : EngineEntry σ} (htext : s.controller.text ≠ "")
    (hentry : s.chosen? = some entry) :
    s.begin.2 = (entry.request s.world).1.engine.toOption.map (s.offer entry.id) ∧
      s.begin.1.controller =
        match (entry.request s.world).1.engine with
        | .ok _ => s.startAttempt.controller.takeOff
        | .error error => s.startAttempt.controller.fail error.message := by
  rw [begin_eq_of_chosen h hlive htext hentry]
  exact ⟨rfl, rfl⟩

/-- What a session hands to the engine of an entry when a generation takes off. -/
structure Hands (s : Session σ) (pending : PendingGeneration σ) (entry : EngineEntry σ) : Prop where
  /-- The entry is registered under the identifier of the generation. -/
  registered : s.registry.get? pending.engineId = some entry
  /-- The engine is the one that the entry yields. -/
  engine : (entry.request s.world).1.engine = .ok pending.engine
  /-- The selection has been reconciled. -/
  reconciled : s.begin.1.controller.selection =
    s.controller.selection.reconciled s.registry.catalog
  /-- The selected engine is that of the generation. -/
  selected : s.begin.1.controller.selection.engine = some pending.engineId
  /-- The template is the current one. -/
  source : pending.source = s.controller.text
  /-- So is the mode. -/
  designTime : pending.host.designTime = s.controller.designTime
  /-- The language is the selected one. -/
  language : pending.host.language = s.begin.1.controller.selection.language
  /-- It is one of the languages of the entry. -/
  mem : ∀ language ∈ pending.host.language, language ∈ entry.descriptor.languages
  /-- It is missing exactly if the entry has no language. -/
  missing : pending.host.language = none ↔ entry.descriptor.languages = []
  /-- The language is never refused. -/
  supported : ∀ id,
    pending.host.requireSupported entry.descriptor.languages ≠ .error (.unsupportedLanguage id)
  /-- A host without a language is refused only for an entry without languages. -/
  configured :
    pending.host.requireSupported entry.descriptor.languages = .error .hostNotConfigured →
      entry.descriptor.languages = []

/-- A generation that takes off is handed what it needs. -/
theorem hands_of_begin {s : Session σ} (h : s.controller.Coherent)
    (hlive : s.controller.flight ≠ .live) {entry : EngineEntry σ} {engine : Engine σ}
    (htext : s.controller.text ≠ "") (hentry : s.chosen? = some entry)
    (hengine : (entry.request s.world).1.engine = .ok engine) :
    s.Hands (s.offer entry.id engine) entry := by
  obtain ⟨hid, hregistered⟩ := chosen?_eq_some hentry
  have hcontroller : s.begin.1.controller = s.startAttempt.controller.takeOff := by
    rw [(begin_of_chosen h hlive htext hentry).2, hengine]
  have hselection : s.begin.1.controller.selection =
      s.controller.selection.reconciled s.registry.catalog := by
    rw [hcontroller]
    exact s.fields_startAttempt.2.1
  -- The reconciled selection fits the registry, so its language is one of the entry's own.
  have hchooses : entry.descriptor.Chooses
      (s.controller.selection.reconciled s.registry.catalog).language := by
    obtain ⟨descriptor, hfind, hchooses⟩ :=
      Selection.fits_reconciled s.controller.selection s.registry.catalog entry.id hid
    rw [Registry.findEngine?_catalog, hregistered, Option.map_some, Option.some.injEq] at hfind
    rwa [hfind]
  have hrequire : (s.offer entry.id engine).host.requireSupported entry.descriptor.languages = _ :=
    Host.requireSupported_of_chooses hchooses
  refine ⟨hregistered, hengine, hselection, ?_, rfl, rfl, ?_, ?_, hchooses.eq_none_iff, ?_, ?_⟩
  · rw [hselection, hid]
    rfl
  · rw [hselection]
    rfl
  · intro language hlanguage
    have hlanguage' : (s.controller.selection.reconciled s.registry.catalog).language =
      some language := hlanguage
    rw [hlanguage'] at hchooses
    exact List.mem_of_find?_eq_some hchooses
  · intro id
    rw [hrequire]
    split <;> simp
  · rw [hrequire]
    split
    case h_1 => simp
    case h_2 hnone => exact fun _ => hchooses.eq_none_iff.mp hnone

end Session

namespace Drive

/-- A generation begins exactly if none is held, the template is not empty, an engine is registered
and the entry of the reconciled engine yields its engine. It is handed a registered engine, which is
then the selected one, the template and mode of the moment, and a language of that engine, or none
if the engine has none. If one is held nothing changes. If there is nothing to generate nothing is
shown any more and no engine is built. If the engine cannot be built, that is reported and what was
shown stays. This holds in every state that a run reaches, whatever is registered by then. -/
theorem begin_hands_over (settings : ControllerSettings) (registry : Registry σ)
    (emitters : EmitterTable) (world : σ) (actions : List (Action σ)) (current : Registry σ) :
    let d := (start settings registry emitters world).perform actions
    let s : Session σ := { d.session with registry := current }
    let c := s.begin.1.controller
    (s.begin.2.isSome ↔ d.held = [] ∧ s.controller.text ≠ "" ∧ current.isEmpty = false ∧
      ∃ entry engine, s.chosen? = some entry ∧
        (entry.request s.world).1.engine = .ok engine) ∧
    (∀ pending, s.begin.2 = some pending → ∃ entry, s.Hands pending entry) ∧
    (d.held ≠ [] → s.begin = (s, none)) ∧
    (d.held = [] → s.controller.text = "" ∨ current.isEmpty = true →
      s.begin.2 = none ∧ c.code = "" ∧ c.tree = none ∧ c.state = .idle ∧ c.status = "Ready" ∧
        s.begin.1.registry = current ∧ s.begin.1.world = s.world ∧
        ∀ id success, .built id success ∈ s.begin.1.history → .built id success ∈ s.history) ∧
    (d.held = [] → s.controller.text ≠ "" → ∀ entry error, s.chosen? = some entry →
      (entry.request s.world).1.engine = .error error →
        s.begin.2 = none ∧ c.state = .failed error.message ∧ c.output = s.controller.output) := by
  intro d s c
  have hcoherent : d.Coherent := (coherent_start settings registry emitters world).perform actions
  have hc : s.controller.Coherent := hcoherent.controller
  have hfree (hheld : d.held = []) : s.controller.flight ≠ .live := fun hlive =>
    hcoherent.live.mp hlive hheld
  have hbusy (hheld : d.held ≠ []) : s.begin = (s, none) :=
    Session.begin_of_live hc (hcoherent.live.mpr hheld)
  have hends (hsome : s.begin.2.isSome) : d.held = [] ∧ s.controller.text ≠ "" ∧
      ∃ entry engine, s.chosen? = some entry ∧ (entry.request s.world).1.engine = .ok engine ∧
        s.begin.2 = some (s.offer entry.id engine) := by
    have hheld : d.held = [] := by
      refine Decidable.byContradiction fun hheld => ?_
      simp [hbusy hheld] at hsome
    have hsomething : ¬(s.controller.text = "" ∨ s.registry.isEmpty = true) := fun hnothing => by
      simp [Session.begin_of_nothing hc (hfree hheld) hnothing] at hsome
    obtain ⟨htext, hregistry⟩ := not_or.mp hsomething
    obtain ⟨entry, hentry⟩ := Option.isSome_iff_exists.mp
      (Session.chosen?_isSome_iff.mpr (Bool.eq_false_iff.mpr hregistry))
    have hbegin := (Session.begin_of_chosen hc (hfree hheld) htext hentry).1
    cases hengine : (entry.request s.world).1.engine with
    | error error => simp [hbegin, hengine, Except.toOption] at hsome
    | ok engine =>
      rw [hengine] at hbegin
      exact ⟨hheld, htext, entry, engine, hentry, hengine, hbegin⟩
  refine ⟨⟨?_, ?_⟩, ?_, hbusy, ?_, ?_⟩
  · intro hsome
    obtain ⟨hheld, htext, entry, engine, hentry, hengine, -⟩ := hends hsome
    have hregistry : s.chosen?.isSome := by rw [hentry]; rfl
    exact ⟨hheld, htext, Session.chosen?_isSome_iff.mp hregistry, entry, engine, hentry, hengine⟩
  · rintro ⟨hheld, htext, -, entry, engine, hentry, hengine⟩
    rw [(Session.begin_of_chosen hc (hfree hheld) htext hentry).1, hengine]
    rfl
  · intro pending hpending
    obtain ⟨hheld, htext, entry, engine, hentry, hengine, hbegin⟩ := hends (by rw [hpending]; rfl)
    rw [hpending, Option.some.injEq] at hbegin
    rw [hbegin]
    exact ⟨entry, Session.hands_of_begin hc (hfree hheld) htext hentry hengine⟩
  · intro hheld hnothing
    have hbegin := Session.begin_of_nothing hc (hfree hheld) hnothing
    simp only [c]
    rw [hbegin]
    refine ⟨rfl, rfl, rfl, rfl, rfl, rfl, rfl, fun id success hbuilt => ?_⟩
    simpa [Session.startAttempt] using hbuilt
  · intro hheld htext entry error hentry herror
    obtain ⟨hnone, hcontroller⟩ := Session.begin_of_chosen hc (hfree hheld) htext hentry
    rw [herror] at hnone hcontroller
    simp only [c, hcontroller]
    exact ⟨hnone, rfl, (Session.prepares_startAttempt hc (hfree hheld)).2⟩

end Drive

end TemplateInspector
