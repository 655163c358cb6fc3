import Mathlib.Data.List.Nodup
import TemplateInspector.Proofs.Registry.Fitting

/-!
# Valid selections

A selection refers to a registry that changes behind its back: the selected engine may be removed,
and may come back under its identifier with other languages. A call on the selection takes the
registry as it finds it. Whatever happened before, a call that is not refused leaves the repair of
the language that was held or asked for, and only an engine that is not registered is refused.
-/

namespace TemplateInspector

variable {σ : Type}

/-- The repair of a language that was asked for, against the languages of an engine: the first of
them with its identifier, else the first of all, and none where there are none. -/
inductive Language.Repaired (asked : Option Language) : List Language → Option Language → Prop
  /-- There is nothing to choose from. -/
  | nothing : Repaired asked [] none
  /-- The first description of the language that was asked for is chosen. -/
  | found {wanted language : Language} {before after : List Language}
      (hasked : asked = some wanted) (hid : language.id = wanted.id)
      (hbefore : ∀ other ∈ before, other.id ≠ wanted.id) :
      Repaired asked (before ++ language :: after) (some language)
  /-- No description of what was asked for is there, and the first one is chosen. -/
  | fallback {language : Language} {others : List Language}
      (habsent : ∀ wanted, asked = some wanted →
        ∀ other ∈ language :: others, other.id ≠ wanted.id) :
      Repaired asked (language :: others) (some language)

/-- The repair is missing exactly if there is nothing to choose from. -/
theorem Language.Repaired.eq_none_iff {asked language : Option Language}
    {supported : List Language} (h : Language.Repaired asked supported language) :
    language = none ↔ supported = [] := by
  cases h with
  | nothing => exact iff_of_true rfl rfl
  | found => exact iff_of_false (by simp) (by simp)
  | fallback => exact iff_of_false (by simp) (by simp)

/-- A language is resolved to its repair. -/
theorem Language.repaired_resolveLanguage (asked : Option Language) (supported : List Language) :
    Language.Repaired asked supported (resolveLanguage asked supported) := by
  unfold resolveLanguage
  cases hfound : asked.bind fun wanted => Language.find? wanted.id supported with
  | some language =>
    obtain ⟨wanted, hasked, hfind⟩ := Option.bind_eq_some_iff.mp hfound
    obtain ⟨hid, before, after, rfl, hbefore⟩ := List.find?_eq_some_iff_append.mp hfind
    exact .found hasked (by simpa using hid) (by simpa using hbefore)
  | none =>
    cases supported with
    | nil => exact .nothing
    | cons language others =>
      refine .fallback fun wanted hasked => ?_
      rw [hasked, Option.bind_some] at hfound
      simpa [Language.find?] using hfound

namespace Registry

/-- An engine is registered exactly if its identifier is among those of the entries. -/
theorem contains_iff_mem_ids {registry : Registry σ} {id : String} :
    registry.contains id = true ↔ id ∈ registry.ids := by
  simp [contains, get?, ids, List.find?_isSome]

/-- Registering an engine keeps identifiers distinct. -/
theorem nodup_ids_registerIfNew {registry : Registry σ} (h : registry.ids.Nodup)
    (entry : EngineEntry σ) : (registry.registerIfNew entry).ids.Nodup := by
  unfold registerIfNew register
  cases hcontains : registry.contains entry.id with
  | true => simpa using h
  | false =>
    have hnew : entry.id ∉ registry.ids := by
      rw [← contains_iff_mem_ids, hcontains]
      exact Bool.false_ne_true
    have hids : (registry.ids ++ [entry.id]).Nodup := by
      rw [← List.concat_eq_append]
      exact h.concat hnew
    simpa [ids] using hids

/-- Removing an engine keeps identifiers distinct. -/
theorem nodup_ids_unregister {registry : Registry σ} (h : registry.ids.Nodup) (id : String) :
    (registry.unregister id).2.ids.Nodup := by
  unfold unregister
  cases registry.get? id with
  | none => exact h
  | some entry => exact h.sublist (List.eraseP_sublist.map EngineEntry.id)

/-- With distinct identifiers, every entry is the one that is found under its identifier. -/
theorem get?_of_mem {registry : Registry σ} (h : registry.ids.Nodup) {entry : EngineEntry σ}
    (hentry : entry ∈ registry.entries) : registry.get? entry.id = some entry := by
  obtain ⟨found, hfound⟩ := Option.isSome_iff_exists.mp
    (contains_iff_mem_ids.mpr (List.mem_map_of_mem (f := EngineEntry.id) hentry))
  have hid := id_of_get? hfound
  rw [get?] at hfound
  rw [get?, hfound, List.inj_on_of_nodup_map h (List.mem_of_find?_eq_some hfound) hentry hid]

end Registry

namespace Selection

/-- A call on a selection. -/
inductive Call
  /-- Reconciles it with the registered engines. -/
  | reconcile
  /-- Selects an engine, or none. -/
  | engine (id : Option String)
  /-- Selects a language, or none. -/
  | language (language : Option Language)
  deriving DecidableEq, Repr

/-- Makes a call. Yields the selection and whether it has changed, or why the call is refused. -/
def make (selection : Selection) (catalog : List EngineDescriptor) :
    Call → Except SelectionError (Selection × Bool)
  | .reconcile => .ok (selection.reconcile catalog)
  | .engine id => selection.selectEngine id catalog
  | .language language => .ok (selection.selectLanguage language catalog)

/-- The language that a call has repaired: the one that it names, else the one that is held. -/
def asked (selection : Selection) : Call → Option Language
  | .language language => language
  | .reconcile | .engine _ => selection.language

/-- The language is the repair of what was asked for, if the selected engine is registered. -/
def Valid (selection : Selection) (registry : Registry σ) (asked : Option Language) : Prop :=
  ∀ entry ∈ registry.entries, selection.engine = some entry.id →
    Language.Repaired asked entry.descriptor.languages selection.language

/-- Once its language is repaired a selection is valid. -/
theorem valid_ensureLanguage {registry : Registry σ} (h : registry.ids.Nodup)
    (selection : Selection) :
    (selection.ensureLanguage registry.catalog).Valid registry selection.language := by
  intro entry hentry hselected
  rw [engine_ensureLanguage] at hselected
  have hdescriptor : selection.descriptor? registry.catalog = some entry.descriptor := by
    rw [descriptor?, hselected, Option.bind_some, Registry.findEngine?_catalog,
      Registry.get?_of_mem h hentry, Option.map_some]
  rw [ensureLanguage, hdescriptor]
  exact Language.repaired_resolveLanguage selection.language entry.descriptor.languages

/-- A selection without an engine is valid. -/
theorem valid_of_engine_none {selection : Selection} (h : selection.engine = none)
    (registry : Registry σ) (asked : Option Language) : selection.Valid registry asked := by
  intro entry hentry hselected
  rw [h] at hselected
  contradiction

/-- A call that is not refused leaves a valid selection. -/
theorem valid_of_make {registry : Registry σ} (h : registry.ids.Nodup) {selection : Selection}
    {call : Call} {next : Selection × Bool}
    (hnext : selection.make registry.catalog call = .ok next) :
    next.1.Valid registry (selection.asked call) := by
  cases call with
  | reconcile =>
    cases hnext
    exact valid_ensureLanguage h _
  | language language =>
    cases hnext
    exact valid_ensureLanguage h _
  | engine id =>
    rcases selectEngine_cases hnext with hnone | ⟨name, -, hnamed⟩
    · rw [hnone]
      exact valid_of_engine_none rfl registry _
    · rw [hnamed]
      exact valid_ensureLanguage h _

/-- An engine is refused exactly if it is not registered. -/
theorem make_engine_eq_error_iff {registry : Registry σ} {selection : Selection}
    {id : Option String} {error : SelectionError} :
    selection.make registry.catalog (.engine id) = .error error ↔
      ∃ name, id = some name ∧ name ∉ registry.ids ∧ error = .unknownEngine name := by
  cases id with
  | none => simp [make, selectEngine]
  | some name =>
    have hfind : (findEngine? registry.catalog name).isSome = registry.contains name := by
      rw [Registry.findEngine?_catalog, Option.isSome_map, Registry.contains]
    by_cases hname : name ∈ registry.ids
    · have hcontains := Registry.contains_iff_mem_ids.mpr hname
      simp [make, selectEngine, hfind, hcontains, hname]
    · have hcontains := mt Registry.contains_iff_mem_ids.mp hname
      simpa [make, selectEngine, hfind, hcontains, hname] using eq_comm

/-- With the selected engine gone, or none selected, the first registered one is picked. -/
theorem engine_reconciled_of_not_mem {registry : Registry σ} {selection : Selection}
    (h : ∀ id ∈ registry.ids, selection.engine ≠ some id) :
    (selection.reconciled registry.catalog).engine = registry.ids.head? := by
  have hdescriptor : selection.descriptor? registry.catalog = none := by
    rw [descriptor?, Option.bind_eq_none_iff]
    intro id hselected
    rw [Registry.findEngine?_catalog, Option.map_eq_none_iff, ← Option.not_isSome_iff_eq_none]
    intro hcontains
    exact h id (Registry.contains_iff_mem_ids.mp hcontains) hselected
  rw [engine_reconciled, reconciledEngine, hdescriptor, Registry.catalog, Registry.ids,
    List.head?_map, List.head?_map, Option.map_map]
  rfl

/-- No engine is picked exactly if none is registered. -/
theorem engine_reconciled_eq_none_iff {registry : Registry σ} {selection : Selection} :
    (selection.reconciled registry.catalog).engine = none ↔ registry.entries = [] := by
  cases hempty : registry.isEmpty with
  | true =>
    have hentries := Registry.isEmpty_eq_true_iff.mp hempty
    refine iff_of_true ?_ hentries
    rw [engine_reconciled_of_not_mem] <;> simp [Registry.ids, hentries]
  | false =>
    obtain ⟨id, entry, hid, hentry⟩ := Registry.exists_get?_reconciled hempty selection
    refine iff_of_false (by simp [hid]) fun hentries => ?_
    simp [Registry.isEmpty_eq_true_iff.mpr hentries] at hempty

/-- Where no engine is registered the language is left alone. -/
theorem language_reconciled_of_nil {registry : Registry σ} (h : registry.entries = [])
    (selection : Selection) :
    (selection.reconciled registry.catalog).language = selection.language := by
  have hcatalog : registry.catalog = [] := by simp [Registry.catalog, h]
  simp only [hcatalog, reconciled, ensureLanguage, descriptor?_nil]

end Selection

/-- A registry with a selection of one of its engines, which learns of no change by itself. -/
structure Bench (σ : Type) where
  /-- The registered engines. -/
  registry : Registry σ := {}
  /-- The selection. -/
  selection : Selection := {}

/-- What can be done at a bench. -/
inductive Bench.Move (σ : Type)
  /-- An engine is registered, if its identifier is free. -/
  | register (entry : EngineEntry σ)
  /-- An engine is removed. -/
  | unregister (id : String)
  /-- A call is made on the selection. -/
  | call (call : Selection.Call)

namespace Bench

/-- Makes a call on the selection; yields whether it has changed, or why the call is refused. -/
def call (b : Bench σ) (call : Selection.Call) : Bench σ × Except SelectionError Bool :=
  match b.selection.make b.registry.catalog call with
  | .ok (selection, changed) => ({ b with selection }, .ok changed)
  | .error error => (b, .error error)

/-- Makes a move. -/
def step (b : Bench σ) : Move σ → Bench σ
  | .register entry => { b with registry := b.registry.registerIfNew entry }
  | .unregister id => { b with registry := (b.registry.unregister id).2 }
  | .call call => (b.call call).1

/-- Makes moves one after another. -/
def run (b : Bench σ) (moves : List (Move σ)) : Bench σ :=
  moves.foldl step b

/-- A call leaves the registry alone. -/
theorem registry_call (b : Bench σ) (call : Selection.Call) :
    (b.call call).1.registry = b.registry := by
  unfold Bench.call
  split <;> rfl

/-- Every move keeps the identifiers of engines distinct. -/
theorem nodup_ids_step {b : Bench σ} (h : b.registry.ids.Nodup) (move : Move σ) :
    (b.step move).registry.ids.Nodup := by
  cases move with
  | register entry => exact Registry.nodup_ids_registerIfNew h entry
  | unregister id => exact Registry.nodup_ids_unregister h id
  | call call =>
    rw [step, registry_call]
    exact h

/-- Every run keeps the identifiers of engines distinct. -/
theorem nodup_ids_run {b : Bench σ} (h : b.registry.ids.Nodup) (moves : List (Move σ)) :
    (b.run moves).registry.ids.Nodup := by
  induction moves generalizing b with
  | nil => exact h
  | cons move moves ih => exact ih (nodup_ids_step h move)

/-- A call that is answered leaves a valid selection. -/
theorem valid_call {b : Bench σ} (h : b.registry.ids.Nodup) {call : Selection.Call}
    {changed : Bool} (hanswer : (b.call call).2 = .ok changed) :
    (b.call call).1.selection.Valid b.registry (b.selection.asked call) := by
  cases hmake : b.selection.make b.registry.catalog call with
  | ok next =>
    simp only [Bench.call, hmake]
    exact Selection.valid_of_make h hmake
  | error error => simp [Bench.call, hmake] at hanswer

/-- A call that is refused leaves everything as it was. -/
theorem call_of_refused {b : Bench σ} {call : Selection.Call} {error : SelectionError}
    (hanswer : (b.call call).2 = .error error) :
    (b.call call).1 = b ∧ b.selection.make b.registry.catalog call = .error error := by
  cases hmake : b.selection.make b.registry.catalog call with
  | ok next => simp [Bench.call, hmake] at hanswer
  | error other => simpa [Bench.call, hmake] using hanswer

/-- Whatever was registered, removed and selected before: a call that is answered leaves, for a
selected engine that is registered, the repair of the language that was held or asked for, and none
exactly if the engine has none. Reconciling keeps the engine as long as it is registered, picks the
first one else, and has none to pick only where none is registered. An engine is refused exactly if
it is not registered, and then nothing changes. -/
theorem calls_leave_valid (first : Selection) (moves : List (Move σ)) :
    let b := (Bench.mk {} first : Bench σ).run moves
    let reconciled := (b.call .reconcile).1.selection
    (∀ call changed, (b.call call).2 = .ok changed →
      ∀ entry ∈ b.registry.entries, (b.call call).1.selection.engine = some entry.id →
        let language := (b.call call).1.selection.language
        (language = none ↔ entry.descriptor.languages = []) ∧
          Language.Repaired (b.selection.asked call) entry.descriptor.languages language) ∧
    ((∀ id ∈ b.registry.ids, b.selection.engine = some id → reconciled.engine = some id) ∧
      ((∀ id ∈ b.registry.ids, b.selection.engine ≠ some id) →
        reconciled.engine = b.registry.ids.head?) ∧
      (reconciled.engine = none ↔ b.registry.entries = []) ∧
      (b.registry.entries = [] → reconciled.language = b.selection.language)) ∧
    ∀ id,
      ((∃ error, (b.call (.engine id)).2 = .error error) ↔
        ∃ name, id = some name ∧ name ∉ b.registry.ids) ∧
      ∀ error, (b.call (.engine id)).2 = .error error →
        (b.call (.engine id)).1 = b ∧ id.map SelectionError.unknownEngine = some error := by
  intro b reconciled
  have hids : b.registry.ids.Nodup := nodup_ids_run (b := ⟨{}, first⟩) List.nodup_nil moves
  refine ⟨?_, ⟨?_, ?_, ?_, ?_⟩, fun id => ⟨⟨?_, ?_⟩, ?_⟩⟩
  · intro call changed hanswer entry hentry hselected language
    have hrepaired := valid_call hids hanswer entry hentry hselected
    exact ⟨hrepaired.eq_none_iff, hrepaired⟩
  · intro id hid hselected
    exact Registry.engine_reconciled_of_contains hselected (Registry.contains_iff_mem_ids.mpr hid)
  · exact fun hgone => Selection.engine_reconciled_of_not_mem hgone
  · exact Selection.engine_reconciled_eq_none_iff
  · exact fun hentries => Selection.language_reconciled_of_nil hentries b.selection
  · rintro ⟨error, hanswer⟩
    obtain ⟨name, rfl, hname, -⟩ :=
      Selection.make_engine_eq_error_iff.mp (call_of_refused hanswer).2
    exact ⟨name, rfl, hname⟩
  · rintro ⟨name, rfl, hname⟩
    have hmake : b.selection.make b.registry.catalog (.engine (some name)) =
        .error (.unknownEngine name) :=
      Selection.make_engine_eq_error_iff.mpr ⟨name, rfl, hname, rfl⟩
    exact ⟨.unknownEngine name, by simp only [Bench.call, hmake]⟩
  · intro error hanswer
    obtain ⟨hsame, hmake⟩ := call_of_refused hanswer
    obtain ⟨name, rfl, -, rfl⟩ := Selection.make_engine_eq_error_iff.mp hmake
    exact ⟨hsame, rfl⟩

end Bench

end TemplateInspector
