import TemplateInspector.Proofs.Controller.Coherence

/-!
# Edits and completion commute

Edits that are made while a generation is in flight could as well be made when it has landed: the
session comes to the same, and every caller is told the same. A recorded change is a change that is
put off, so it does not matter at which times the edits were made. What is shown in the end depends
on the generation alone.
-/

namespace TemplateInspector

variable {σ : Type}

namespace Controller

/-- With nothing in flight a change arms the timer. -/
theorem markChanged_of_landed {c : Controller} (hflight : c.flight = .none)
    (hstate : c.state ≠ .generating) (now : Time) : c.markChanged now = c.rearm now := by
  rw [markChanged_eq, reclaim_of_ne_abandoned (by simp [hflight]), if_neg hstate]

/-- A generation lands the same whatever was edited meanwhile. -/
theorem landed_note (c : Controller) (next : Inputs × Bool) (emitters : EmitterTable)
    (language : Option Language) (outcome : Outcome) :
    (c.note next).landed emitters language outcome =
      (c.landed emitters language outcome).withInputs next.1 := rfl

/-- Taking over inputs before a generation lands comes to the same as taking them over then. -/
theorem Coherent.land_note {c : Controller} (h : c.Coherent) (hlive : c.flight = .live)
    (next : Inputs × Bool) (emitters : EmitterTable) (language : Option Language)
    (outcome : Outcome) (now : Time) :
    (c.note next).land emitters language outcome now =
      (c.land emitters language outcome now).take next now := by
  have hlanded := h.landed hlive emitters language outcome
  have hflight : (c.landed emitters language outcome).flight = .none := rfl
  have hstate : (c.landed emitters language outcome).state ≠ .generating :=
    fun hgenerating => hlanded.flight.mpr hgenerating hflight
  obtain ⟨inputs, changed⟩ := next
  rw [land_eq, land_eq, landed_note]
  generalize c.landed emitters language outcome = landed at hflight hstate
  have hbefore : (landed.withInputs inputs).markChanged now =
      (landed.withInputs inputs).rearm now :=
    markChanged_of_landed (c := landed.withInputs inputs) hflight hstate now
  have hrearm : (landed.markChanged now).withInputs inputs =
      (landed.withInputs inputs).rearm now := by
    rw [markChanged_of_landed hflight hstate]
    rfl
  have htwice : ((landed.withInputs inputs).rearm now).markChanged now =
      (landed.withInputs inputs).rearm now :=
    markChanged_of_landed (c := (landed.withInputs inputs).rearm now) hflight (by simp [rearm]) now
  -- A change arms the timer when the generation lands, whether it was recorded earlier or is this
  -- one. If there are both, the right side arms it twice, at one time, which is as good as once.
  cases hrecorded : c.changedInFlight <;> cases changed <;>
    simp only [note, hrecorded, take_true, take_false, Bool.or_true, Bool.or_false, ite_true,
      Bool.false_eq_true, ite_false]
  case true.false => rw [hbefore, hrearm]
  case true.true => rw [hbefore, hrearm, htwice]

end Controller

namespace Session

/-- Makes edits one after another, each at its time, and yields what the callers are told. -/
def editAll (s : Session σ) : List (Edit σ × Time) → Session σ × List (Reply σ)
  | [] => (s, [])
  | (edit, now) :: edits =>
    let made := s.edit now edit
    let rest := made.1.editAll edits
    (rest.1, made.2 :: rest.2)

/-- An edit can be put off until the generation in flight is completed. -/
theorem complete_edit {s : Session σ} (h : s.controller.Coherent)
    (hlive : s.controller.flight = .live) (pending : PendingGeneration σ) (edit : Edit σ)
    (now later : Time) :
    (s.edit now edit).1.complete pending later = ((s.complete pending later).edit later edit).1 ∧
      (s.edit now edit).2 = ((s.complete pending later).edit later edit).2 := by
  cases edit with
  | input input =>
    have hinputs : (s.complete pending later).controller.inputs = s.controller.inputs :=
      Controller.inputs_land ..
    have hcatalog : (s.complete pending later).registry.catalog = s.registry.catalog := rfl
    simp only [Session.edit, input_eq, hinputs, hcatalog]
    cases s.controller.inputs.give s.registry.catalog input with
    | error error => exact ⟨rfl, rfl⟩
    | ok next =>
      refine ⟨?_, rfl⟩
      simp only [Prod.map_fst, id, complete, record, h.take_of_live hlive, h.land_note hlive]
  | register entry =>
    have hregistry : (s.complete pending later).registry = s.registry := rfl
    simp only [Session.edit, register, hregistry]
    cases s.registry.register entry <;> exact ⟨rfl, rfl⟩
  | unregister id => exact ⟨rfl, rfl⟩
  | reportFailure error => exact ⟨rfl, rfl⟩

/-- Edits can be put off until the generation in flight is completed. -/
theorem complete_editAll {s : Session σ} (h : s.controller.Coherent)
    (hlive : s.controller.flight = .live) (pending : PendingGeneration σ)
    (edits : List (Edit σ × Time)) (later : Time) :
    (s.editAll edits).1.complete pending later =
        ((s.complete pending later).editAll (edits.map fun made => (made.1, later))).1 ∧
      (s.editAll edits).2 =
        ((s.complete pending later).editAll (edits.map fun made => (made.1, later))).2 := by
  induction edits generalizing s with
  | nil => exact ⟨rfl, rfl⟩
  | cons made edits ih =>
    obtain ⟨edit, now⟩ := made
    obtain ⟨hcoherent, hkept⟩ := coherent_edit h now edit
    obtain ⟨hsession, hreply⟩ := complete_edit h hlive pending edit now later
    obtain ⟨hrest, hreplies⟩ := ih hcoherent (hkept.mpr hlive)
    rw [hsession] at hrest hreplies
    exact ⟨hrest, by simp only [editAll, List.map_cons, hreply, hreplies]⟩

/-- Any number of edits leaves alone the world, the emitters and what is shown. -/
theorem frame_editAll (s : Session σ) (edits : List (Edit σ × Time)) :
    (s.editAll edits).1.world = s.world ∧ (s.editAll edits).1.emitters = s.emitters ∧
      (s.editAll edits).1.controller.output = s.controller.output := by
  induction edits generalizing s with
  | nil => exact ⟨rfl, rfl, rfl⟩
  | cons made edits ih =>
    obtain ⟨hworld, hemitters, houtput⟩ := s.frame_edit made.2 made.1
    obtain ⟨hworld', hemitters', houtput'⟩ := ih (s.edit made.2 made.1).1
    exact ⟨hworld'.trans hworld, hemitters'.trans hemitters, houtput'.trans houtput⟩

end Session

namespace Drive

/-- Edits made while a generation is in flight commute with its completion: to make them at any
times and then to complete it comes to the same session as to complete it and then to make them, all
at that time, and the callers are told the same. What is shown is what the engine of the generation
came to for its own template and host, whatever the edits were. -/
theorem edits_commute_with_completion (settings : ControllerSettings) (registry : Registry σ)
    (emitters : EmitterTable) (world : σ) (actions : List (Action σ))
    (pending : PendingGeneration σ) (edits : List (Edit σ × Time)) (later : Time)
    (hheld : pending ∈ ((start settings registry emitters world).perform actions).held) :
    let s := ((start settings registry emitters world).perform actions).session
    let early := s.editAll edits
    let late := (s.complete pending later).editAll (edits.map fun made => (made.1, later))
    let outcome := (pending.engine.generate pending.source pending.host s.world).1
    let shown :=
      outcome.display s.emitters pending.host.language s.controller.code s.controller.tree
    early.1.complete pending later = late.1 ∧ early.2 = late.2 ∧
      (early.1.complete pending later).controller.code = shown.code ∧
      (early.1.complete pending later).controller.tree = shown.tree := by
  intro s early late outcome shown
  have hcoherent := (coherent_start settings registry emitters world).perform actions
  have hlive : s.controller.flight = .live := hcoherent.live.mpr (List.ne_nil_of_mem hheld)
  obtain ⟨hsession, hreplies⟩ :=
    Session.complete_editAll hcoherent.controller hlive pending edits later
  obtain ⟨hworld, hemitters, houtput⟩ := s.frame_editAll edits
  have hshown : (early.1.complete pending later).controller.output = (shown.code, shown.tree) := by
    obtain ⟨hcode, htree⟩ := Prod.mk.inj houtput
    simp only [shown, outcome, ← hworld, ← hemitters, ← hcode, ← htree]
    exact Controller.output_land ..
  exact ⟨hsession, hreplies, congrArg Prod.fst hshown, congrArg Prod.snd hshown⟩

/-- A template with errors is completed before or after edits at times that run backwards: of the
template, of an engine that is not there, and of the registry, from which the engine in flight is
removed. -/
theorem edits_commute_with_completion_of_removed :
    let actions : List (Action Rehearsal) := [.edit (.input (.text "x")) 0, .begin]
    let pending : PendingGeneration Rehearsal :=
      ⟨"echo", Rehearsal.engine 0, ⟨some ⟨"text", "Text"⟩, false⟩, "x"⟩
    let edits : List (Edit Rehearsal × Time) :=
      [(.input (.text "xy"), 9), (.input (.engine (some "ghost")), 4), (.unregister "echo", 3),
        (.input .registryChanged, 1)]
    let s := ((rehearse [.errors]).perform actions).session
    let early := s.editAll edits
    let late := (s.complete pending 7).editAll (edits.map fun made => (made.1, 7))
    pending ∈ ((rehearse [.errors]).perform actions).held ∧
      early.1.complete pending 7 = late.1 ∧ early.2 = late.2 ∧
      (early.1.complete pending 7).controller.code = "x\n" ∧
      (early.1.complete pending 7).controller.tree = some ⟨.document, ⟨0, 1⟩, "", []⟩ := by
  intro actions pending edits s early late
  have hheld : pending ∈ ((rehearse [.errors]).perform actions).held := List.mem_singleton_self _
  obtain ⟨hsession, hreplies, hcode, htree⟩ :=
    edits_commute_with_completion {} _ _ _ actions pending edits 7 hheld
  exact ⟨hheld, hsession, hreplies, hcode.trans (by decide), htree.trans (by decide)⟩

end Drive

end TemplateInspector
