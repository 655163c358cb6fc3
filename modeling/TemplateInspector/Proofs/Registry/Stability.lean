import Mathlib.Data.List.Infix
import TemplateInspector.Proofs.Controller.Inputs
import TemplateInspector.Proofs.Registry.Replay

/-!
# Reconciled selections are stable

A selection that was reconciled stays as it is until its engine is removed: whatever else is
registered and removed around the engine, the next reconciliation finds nothing to repair and says
so. Every call on a selection reports a change exactly if another engine or another language is
selected than before.
-/

namespace TemplateInspector

variable {σ : Type}

/-- A language that may be selected with an engine is its own repair. -/
theorem EngineDescriptor.Chooses.resolveLanguage_eq {descriptor : EngineDescriptor}
    {language : Option Language} (h : descriptor.Chooses language) :
    resolveLanguage language descriptor.languages = language := by
  cases language with
  | none =>
    have hlanguages : descriptor.languages = [] := h
    rw [hlanguages]
    rfl
  | some language => exact resolveLanguage_of_find? h

namespace Registry

/-- A call keeps the identifiers of engines distinct. -/
theorem nodup_ids_make {registry : Registry σ} (h : registry.ids.Nodup) (call : Call σ) :
    (registry.make call).ids.Nodup := by
  cases call with
  | register entry => exact nodup_ids_registerIfNew h entry
  | registerBuiltin check => exact nodup_ids_registerIfNew (nodup_ids_registerIfNew h _) _
  | unregister id => exact nodup_ids_unregister h id
  | reportFailure error => exact h

/-- Calls keep the identifiers of engines distinct. -/
theorem nodup_ids_makeAll {registry : Registry σ} (h : registry.ids.Nodup)
    (calls : List (Call σ)) : (registry.makeAll calls).ids.Nodup := by
  induction calls generalizing registry with
  | nil => exact h
  | cons call calls ih => exact ih (nodup_ids_make h call)

/-- Removing an engine leaves the others. -/
theorem entries_unregister (registry : Registry σ) (id : String) :
    (registry.unregister id).2.entries = registry.entries.eraseP fun entry => entry.id == id := by
  unfold unregister
  cases hget : registry.get? id with
  | some entry => rfl
  | none => exact (List.eraseP_of_forall_not (by simpa [get?] using hget)).symm

/-- Registering an engine keeps those that are registered. -/
theorem mem_entries_registerIfNew {registry : Registry σ} {entry : EngineEntry σ}
    (hentry : entry ∈ registry.entries) (other : EngineEntry σ) :
    entry ∈ (registry.registerIfNew other).entries := by
  unfold registerIfNew register
  cases registry.contains other.id with
  | true => exact hentry
  | false => exact List.mem_append_left _ hentry

/-- An entry outlives a call after which its identifier is still registered. No other entry can have
taken its place, since an identifier that is taken is refused. -/
theorem mem_entries_make {registry : Registry σ} (h : registry.ids.Nodup) {entry : EngineEntry σ}
    (hentry : entry ∈ registry.entries) {call : Call σ}
    (hkept : entry.id ∈ (registry.make call).ids) : entry ∈ (registry.make call).entries := by
  cases call with
  | register other => exact mem_entries_registerIfNew hentry other
  | registerBuiltin check => exact mem_entries_registerIfNew (mem_entries_registerIfNew hentry _) _
  | reportFailure error => exact hentry
  | unregister id =>
    have hids : id ∉ (registry.make (.unregister id)).ids := by
      rw [make, ids, entries_unregister]
      rw [ids] at h
      have herase : (registry.entries.eraseP fun entry => entry.id == id).map EngineEntry.id =
          (registry.entries.map EngineEntry.id).erase id := by
        simp only [List.erase_eq_eraseP', List.eraseP_map]
        rfl
      rw [herase]
      exact h.not_mem_erase
    have hother : entry.id ≠ id := fun heq => hids (heq ▸ hkept)
    rw [make, entries_unregister]
    exact (List.mem_eraseP_of_neg (by simpa using hother)).mpr hentry

/-- An entry outlives calls during which its identifier stays registered. -/
theorem mem_entries_makeAll {registry : Registry σ} (h : registry.ids.Nodup)
    {entry : EngineEntry σ} (hentry : entry ∈ registry.entries) {calls : List (Call σ)}
    (hkept : ∀ early ∈ calls.inits, entry.id ∈ (registry.makeAll early).ids) :
    entry ∈ (registry.makeAll calls).entries := by
  induction calls generalizing registry with
  | nil => exact hentry
  | cons call calls ih =>
    have hearly (early : List (Call σ)) (hmem : early ∈ calls.inits) :
        entry.id ∈ ((registry.make call).makeAll early).ids := by
      refine hkept (call :: early) ?_
      rw [List.inits_cons]
      exact List.mem_cons_of_mem _ (List.mem_map_of_mem hmem)
    have hnext : entry.id ∈ (registry.make call).ids := by
      refine hearly [] ?_
      cases calls <;> exact List.mem_cons_self
    exact ih (nodup_ids_make h call) (mem_entries_make h hentry hnext) hearly

/-- An engine stays found while its identifier stays registered. -/
theorem get?_makeAll {registry : Registry σ} (h : registry.ids.Nodup) {id : String}
    {calls : List (Call σ)} (hkept : ∀ early ∈ calls.inits, id ∈ (registry.makeAll early).ids) :
    (registry.makeAll calls).get? id = registry.get? id := by
  have hid : id ∈ registry.ids := hkept [] (by cases calls <;> exact List.mem_cons_self)
  obtain ⟨entry, hentry, rfl⟩ := List.mem_map.mp hid
  rw [get?_of_mem h hentry]
  exact get?_of_mem (nodup_ids_makeAll h calls) (mem_entries_makeAll h hentry hkept)

end Registry

namespace Selection

/-- A selection that is not repaired is reported as unchanged. -/
theorem reconcile_of_reconciled {selection : Selection} {catalog : List EngineDescriptor}
    (h : selection.reconciled catalog = selection) :
    selection.reconcile catalog = (selection, false) := by
  have hsame : selection.same selection = true := same_iff_ids.mpr ⟨rfl, rfl⟩
  rw [reconcile, h, hsame]
  rfl

/-- Whether a selection fits depends only on what its engine is found to be. -/
theorem Fits.of_engine {selection : Selection} {catalog other : List EngineDescriptor}
    (h : selection.Fits catalog) {id : String} (hid : selection.engine = some id)
    (hfind : findEngine? other id = findEngine? catalog id) : selection.Fits other := by
  intro name hname
  obtain rfl : id = name := Option.some.inj (hid.symm.trans hname)
  rw [hfind]
  exact h id hid

/-- A selection with an engine that fits is not repaired. -/
theorem Fits.reconciled_eq {selection : Selection} {catalog : List EngineDescriptor}
    (h : selection.Fits catalog) {id : String} (hid : selection.engine = some id) :
    selection.reconciled catalog = selection := by
  obtain ⟨descriptor, hfind, hchooses⟩ := h id hid
  have hdescriptor : selection.descriptor? catalog = some descriptor := by
    rw [descriptor?, hid, Option.bind_some, hfind]
  simp only [reconciled, reconciledEngine, ensureLanguage, hdescriptor, hchooses.resolveLanguage_eq]

/-- Nor is it reported as changed. -/
theorem Fits.reconcile_eq {selection : Selection} {catalog : List EngineDescriptor}
    (h : selection.Fits catalog) {id : String} (hid : selection.engine = some id) :
    selection.reconcile catalog = (selection, false) :=
  reconcile_of_reconciled (h.reconciled_eq hid)

/-- No engine is picked exactly if there is none to pick. -/
theorem reconciledEngine_eq_none_iff {selection : Selection} {catalog : List EngineDescriptor} :
    selection.reconciledEngine catalog = none ↔ catalog = [] := by
  unfold reconciledEngine
  split
  case h_1 descriptor hdescriptor =>
    obtain ⟨id, hid, hfind⟩ := Option.bind_eq_some_iff.mp hdescriptor
    exact iff_of_false (by simp [hid]) (List.ne_nil_of_mem (List.mem_of_find?_eq_some hfind))
  case h_2 => rw [Option.map_eq_none_iff, List.head?_eq_none_iff]

/-- Reconciling twice repairs nothing more. -/
theorem reconciled_reconciled (selection : Selection) (catalog : List EngineDescriptor) :
    (selection.reconciled catalog).reconciled catalog = selection.reconciled catalog := by
  cases hid : (selection.reconciled catalog).engine with
  | some id => exact (fits_reconciled selection catalog).reconciled_eq hid
  | none =>
    rw [engine_reconciled, reconciledEngine_eq_none_iff] at hid
    simp only [hid, reconciled, reconciledEngine, ensureLanguage, descriptor?_nil, List.head?_nil,
      Option.map_none]

/-- A call that is not refused reports a change exactly if another engine or another language is
selected than before. -/
theorem snd_of_make {selection : Selection} {catalog : List EngineDescriptor} {call : Call}
    {next : Selection × Bool} (h : selection.make catalog call = .ok next) :
    next.2 = true ↔ next.1.engine ≠ selection.engine ∨
      next.1.language.map Language.id ≠ selection.language.map Language.id := by
  have hsnd : next.2 = !next.1.same selection := by
    cases call with
    | reconcile | language language =>
      cases h
      rfl
    | engine id => exact Inputs.snd_of_selectEngine h
  rw [hsnd, Bool.not_eq_true', ← Bool.not_eq_true, same_iff_ids, not_and_or]

/-- Reconciling settles a selection. Whatever was registered and removed before, reconciling again
changes nothing and reports no change. If an engine is selected then, it stays so as long as the
engine stays registered, whatever else is registered and removed meanwhile: the selection keeps its
engine and its language, with the name of that, and a session with this selection takes no note of
the changed registry. Every call on a selection reports a change exactly if it leaves another engine
or another language selected than before. -/
theorem reconcile_settles (earlier : List (Registry.Call σ)) (first : Selection) :
    let registry := ({} : Registry σ).makeAll earlier
    let settled := (first.reconcile registry.catalog).1
    settled.reconcile registry.catalog = (settled, false) ∧
      (∀ (calls : List (Registry.Call σ)) (id : String), settled.engine = some id →
        (∀ early ∈ calls.inits, id ∈ (registry.makeAll early).ids) →
        let later := registry.makeAll calls
        settled.reconcile later.catalog = (settled, false) ∧
          ∀ (s : Session σ) (now : Time), s.controller.selection = settled → s.registry = later →
            s.registryChanged now = (s, false)) ∧
      ∀ call next, first.make registry.catalog call = .ok next →
        (next.2 = true ↔ next.1.engine ≠ first.engine ∨
          next.1.language.map Language.id ≠ first.language.map Language.id) := by
  intro registry settled
  have hnone : ({} : Registry σ).ids.Nodup := List.nodup_nil
  have hids : registry.ids.Nodup := Registry.nodup_ids_makeAll hnone earlier
  refine ⟨reconcile_of_reconciled (reconciled_reconciled ..), fun calls id hid hkept => ?_,
    fun call next => snd_of_make⟩
  intro later
  have hfind : findEngine? later.catalog id = findEngine? registry.catalog id := by
    rw [Registry.findEngine?_catalog, Registry.findEngine?_catalog,
      Registry.get?_makeAll hids hkept]
  have hlater : settled.reconcile later.catalog = (settled, false) :=
    ((fits_reconciled first registry.catalog).of_engine hid hfind).reconcile_eq hid
  refine ⟨hlater, fun s now hselection hregistry => ?_⟩
  rw [← hselection, ← hregistry] at hlater
  simp only [Session.registryChanged, Controller.registryChanged, Controller.withSelection, hlater,
    Bool.false_eq_true, ite_false]

/-- The first engine is removed, and comes back behind the selected one. A language that was
selected under another name is called by its own before that, which is no change. -/
theorem reconcile_settles_returned :
    let earlier : List (Registry.Call Unit) := [.registerBuiltin fun _ => .accepted]
    let first : Selection := ⟨some "literal", some ⟨"typescript", "TS"⟩⟩
    let calls : List (Registry.Call Unit) :=
      [.unregister "tera", .reportFailure ⟨"plugins/broken", "bad manifest"⟩, .unregister "ghost",
        .registerBuiltin fun _ => .accepted]
    let registry := ({} : Registry Unit).makeAll earlier
    let settled := (first.reconcile registry.catalog).1
    let later := registry.makeAll calls
    settled = ⟨some "literal", some ⟨"typescript", "TypeScript"⟩⟩ ∧
      (first.reconcile registry.catalog).2 = false ∧
      (∀ early ∈ calls.inits, "literal" ∈ (registry.makeAll early).ids) ∧
      registry.ids = ["tera", "literal"] ∧ later.ids = ["literal", "tera"] ∧
      settled.reconcile later.catalog = (settled, false) := by
  intro earlier first calls registry settled later
  have hsettled : settled = ⟨some "literal", some ⟨"typescript", "TypeScript"⟩⟩ := by decide +kernel
  have hchanged : (first.reconcile registry.catalog).2 = false := by decide +kernel
  have hkept : ∀ early ∈ calls.inits, "literal" ∈ (registry.makeAll early).ids := by decide +kernel
  have hbefore : registry.ids = ["tera", "literal"] := by decide +kernel
  have hafter : later.ids = ["literal", "tera"] := by decide +kernel
  have hengine : settled.engine = some "literal" := congrArg Selection.engine hsettled
  obtain ⟨-, hstable, -⟩ := reconcile_settles earlier first
  exact ⟨hsettled, hchanged, hkept, hbefore, hafter, (hstable calls "literal" hengine hkept).1⟩

end Selection

end TemplateInspector
