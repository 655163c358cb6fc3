import TemplateInspector.Registry.Basic
import TemplateInspector.Selection

/-!
# Reconciled selections and registered engines

A reconciled selection names an engine that can be asked for, unless no engine is registered. The
catalog of descriptors and the entries of a registry agree on every identifier.
-/

namespace TemplateInspector

variable {σ : Type}

namespace Selection

/-- Where no engine is registered the selected one is not. -/
theorem descriptor?_nil (selection : Selection) : selection.descriptor? [] = none := by
  cases hid : selection.engine <;> simp [descriptor?, findEngine?, hid]

/-- Repairing the language leaves the engine alone. -/
@[simp] theorem engine_ensureLanguage (selection : Selection) (catalog : List EngineDescriptor) :
    (selection.ensureLanguage catalog).engine = selection.engine := by
  unfold ensureLanguage
  split <;> rfl

/-- Reconciling decides on the engine before the language is repaired. -/
theorem engine_reconciled (selection : Selection) (catalog : List EngineDescriptor) :
    (selection.reconciled catalog).engine = selection.reconciledEngine catalog :=
  engine_ensureLanguage ..

end Selection

namespace Registry

/-- The catalog describes the engine of an identifier as its entry does. -/
theorem findEngine?_catalog (registry : Registry σ) (id : String) :
    findEngine? registry.catalog id = (registry.get? id).map EngineEntry.descriptor :=
  List.find?_map ..

theorem isEmpty_eq_true_iff {registry : Registry σ} :
    registry.isEmpty = true ↔ registry.entries = [] := by
  simp [isEmpty, size]

/-- An empty registry has no entry for any identifier. -/
theorem get?_of_isEmpty {registry : Registry σ} (h : registry.isEmpty = true) (id : String) :
    registry.get? id = none := by
  simp [get?, isEmpty_eq_true_iff.mp h]

/-- A reconciled selection names a registered engine if there is one. -/
theorem exists_get?_reconciled {registry : Registry σ} (h : registry.isEmpty = false)
    (selection : Selection) :
    ∃ id entry, (selection.reconciled registry.catalog).engine = some id ∧
      registry.get? id = some entry := by
  have hne : registry.entries ≠ [] := fun hnil => by
    simp [isEmpty_eq_true_iff.mpr hnil] at h
  rw [Selection.engine_reconciled, Selection.reconciledEngine]
  cases hdescriptor : selection.descriptor? registry.catalog with
  | some descriptor =>
    -- The selected engine is registered and stays selected.
    obtain ⟨id, hid, hfind⟩ := Option.bind_eq_some_iff.mp hdescriptor
    rw [findEngine?_catalog] at hfind
    obtain ⟨entry, hentry, -⟩ := Option.map_eq_some_iff.mp hfind
    exact ⟨id, entry, hid, hentry⟩
  | none =>
    obtain ⟨first, others, hentries⟩ := List.exists_cons_of_ne_nil hne
    refine ⟨first.id, first, ?_, ?_⟩
    · simp [catalog, hentries, EngineEntry.id]
    · simp [get?, hentries]

/-- The selected engine stays selected as long as it is registered. -/
theorem engine_reconciled_of_contains {registry : Registry σ} {selection : Selection}
    {id : String} (hselected : selection.engine = some id)
    (hcontains : registry.contains id = true) :
    (selection.reconciled registry.catalog).engine = some id := by
  obtain ⟨entry, hentry⟩ := Option.isSome_iff_exists.mp hcontains
  have hdescriptor : selection.descriptor? registry.catalog = some entry.descriptor := by
    rw [Selection.descriptor?, hselected, Option.bind_some, findEngine?_catalog, hentry,
      Option.map_some]
  rw [Selection.engine_reconciled, Selection.reconciledEngine, hdescriptor, hselected]

end Registry

end TemplateInspector
