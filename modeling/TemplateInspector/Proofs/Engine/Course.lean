import Mathlib.Data.List.Nodup
import TemplateInspector.Engine.Entry

/-!
# The course of an entry

Requests for the engine of an entry run one course: builds fail until one succeeds, and from then on
the engine that it yielded is the answer and nothing is built. To see what is built, factories act
on a ledger, which keeps a record of every call of a factory beside whatever the factories and
engines themselves act on. Each entry has a number, under which its factory is recorded.
-/

namespace TemplateInspector

variable {ε α β τ : Type}

/-- The answers to the requests for one engine, the success of each build that they led to, and the
engine that is kept. -/
inductive Course : List (Except ε α) → List Bool → Option α → Prop
  /-- All builds have failed so far. -/
  | unbuilt (errors : List ε) :
      Course (errors.map .error) (List.replicate errors.length false) none
  /-- A build has succeeded, and its engine was the answer ever after. -/
  | built (errors : List ε) (engine : α) (again : Nat) :
      Course (errors.map .error ++ .ok engine :: List.replicate again (.ok engine))
        (List.replicate errors.length false ++ [true]) (some engine)

namespace Course

variable {answers : List (Except ε α)} {builds : List Bool}

/-- As long as no engine is kept, a request leads to a build. -/
theorem build (h : Course answers builds none) (answer : Except ε α) :
    Course (answers ++ [answer]) (builds ++ [answer.isOk]) answer.toOption := by
  cases h with
  | unbuilt errors =>
    cases answer with
    | error error =>
      have hnext := unbuilt (α := α) (errors ++ [error])
      rwa [List.map_append, List.length_append, ← List.replicate_append_replicate] at hnext
    | ok engine => exact built errors engine 0

/-- An engine that is kept is the answer without a build. -/
theorem keep {engine : α} (h : Course answers builds (some engine)) :
    Course (answers ++ [.ok engine]) builds (some engine) := by
  cases h with
  | built errors engine again =>
    have hnext := built errors engine (again + 1)
    rwa [List.replicate_succ', ← List.cons_append, ← List.append_assoc] at hnext

/-- Failures hold no success. -/
theorem findIdx_isOk_errors (errors : List ε) :
    (errors.map (.error : ε → Except ε α)).findIdx Except.isOk = errors.length := by
  have hnone : ∀ answer ∈ errors.map (.error : ε → Except ε α), answer.isOk = false := by
    simp [Except.isOk, Except.toBool]
  rw [List.findIdx_eq_length.mpr hnone, List.length_map]

/-- The requests up to and including the first that succeeds are those that lead to a build. -/
theorem builds_eq {kept : Option α} (h : Course answers builds kept) :
    builds = (answers.take (answers.findIdx Except.isOk + 1)).map Except.isOk := by
  have hfailures (errors : List ε) : List.replicate errors.length false =
      (errors.map (.error : ε → Except ε α)).map Except.isOk := by
    simp only [List.map_map]
    exact (List.map_const' ..).symm
  cases h with
  | unbuilt errors =>
    rw [findIdx_isOk_errors, List.take_of_length_le (by simp), hfailures]
  | built errors engine again =>
    have hfirst : (errors.map .error ++ .ok engine :: List.replicate again (.ok engine) :
        List (Except ε α)).findIdx Except.isOk = errors.length := by
      rw [List.findIdx_append, findIdx_isOk_errors, List.length_map, if_neg (Nat.lt_irrefl _)]
      simp [List.findIdx_cons, Except.isOk, Except.toBool]
    have htake : (errors.map .error ++ .ok engine :: List.replicate again (.ok engine) :
        List (Except ε α)).take (errors.length + 1) = errors.map .error ++ [.ok engine] := by
      simp [List.take_append, List.take_of_length_le]
    rw [hfirst, htake, List.map_append, ← hfailures]
    rfl

/-- One build succeeds at most. -/
theorem count_builds_le {kept : Option α} (h : Course answers builds kept) :
    builds.count true ≤ 1 := by
  cases h <;> simp [List.count_replicate]

/-- The engine that is kept is the one with which requests were answered. -/
theorem mem_answers_iff {kept : Option α} (h : Course answers builds kept) {engine : α} :
    .ok engine ∈ answers ↔ kept = some engine := by
  cases h with
  | unbuilt errors => simp
  | built errors first again => simp [eq_comm]

/-- After an engine was the answer, no other answer is given. -/
theorem pairwise_answers {kept : Option α} (h : Course answers builds kept) :
    answers.Pairwise fun earlier later => ∀ engine, earlier = .ok engine → later = .ok engine := by
  have hfailures (errors : List ε) : (errors.map (.error : ε → Except ε α)).Pairwise
      fun earlier later => ∀ engine, earlier = .ok engine → later = .ok engine :=
    List.pairwise_map.mpr (List.pairwise_of_forall (by simp))
  cases h with
  | unbuilt errors => exact hfailures errors
  | built errors engine again =>
    refine List.pairwise_append.mpr ⟨hfailures errors, ?_, by simp⟩
    refine List.pairwise_cons.mpr ⟨by simp, ?_⟩
    exact List.pairwise_replicate.mpr (.inr fun _ => id)

/-- An engine is kept exactly if a build has succeeded. -/
theorem isSome_iff {kept : Option α} (h : Course answers builds kept) :
    kept.isSome ↔ true ∈ builds := by
  cases h <;> simp

end Course

/-- What numbered records hold under a number, in order. -/
def recordedUnder (number : Nat) (records : List (Nat × β)) : List β :=
  (records.filter fun record => record.1 == number).map Prod.snd

/-- A record is added under its own number. -/
theorem recordedUnder_concat (number : Nat) (records : List (Nat × β)) (record : Nat × β) :
    recordedUnder number (records ++ [record]) =
      recordedUnder number records ++ if record.1 = number then [record.2] else [] := by
  by_cases h : record.1 = number <;> simp [recordedUnder, h]

/-- A world with a record of the calls of factories. -/
structure Ledger (τ : Type) where
  /-- What factories and engines act on. -/
  world : τ
  /-- The numbers of the factories that were called, in order, and whether the calls succeeded. -/
  builds : List (Nat × Bool) := []

namespace Ledger

/-- An engine that leaves the record of builds alone. -/
def engine (engine : Engine τ) : Engine (Ledger τ) where
  origin := engine.origin
  generate source host ledger :=
    let (outcome, world) := engine.generate source host ledger.world
    (outcome, { ledger with world })

/-- A factory that records its calls under a number. -/
def factory (number : Nat) (build : τ → Except EngineError (Engine τ) × τ) (ledger : Ledger τ) :
    Except EngineError (Engine (Ledger τ)) × Ledger τ :=
  let (made, world) := build ledger.world
  (made.map engine, ⟨world, ledger.builds ++ [(number, made.isOk)]⟩)

/-- A lazy entry with a factory that records its calls. -/
def entry (number : Nat) (descriptor : EngineDescriptor)
    (build : τ → Except EngineError (Engine τ) × τ) : EngineEntry (Ledger τ) where
  descriptor
  build := factory number build

end Ledger

/-- The engine leaves the record of builds alone. -/
def Engine.Discreet (engine : Engine (Ledger τ)) : Prop :=
  ∀ source host ledger, (engine.generate source host ledger).2.builds = ledger.builds

theorem Ledger.discreet_engine (engine : Engine τ) : (Ledger.engine engine).Discreet :=
  fun _ _ _ => rfl

namespace EngineEntry

variable [Inhabited τ]

/-- The number under which the factory of an entry records its calls. -/
def number (entry : EngineEntry (Ledger τ)) : Nat :=
  (((entry.build ⟨default, []⟩).2.builds.head?).map Prod.fst).getD 0

/-- The factory records its calls, and an engine that is kept leaves the record alone. -/
structure Recorded (entry : EngineEntry (Ledger τ)) : Prop where
  /-- The factory records each of its calls under the number of the entry. -/
  build : ∃ build, entry.build = Ledger.factory entry.number build
  /-- The engine that is kept builds nothing. -/
  built : ∀ engine ∈ entry.built, engine.Discreet

/-- What a request of an entry comes to: the answer, the entry and the ledger after it. -/
inductive Responds (entry : EngineEntry (Ledger τ)) (ledger : Ledger τ) :
    Except EngineError (Engine (Ledger τ)) → EngineEntry (Ledger τ) → Ledger τ → Prop
  /-- The engine is kept, and nothing is built. -/
  | kept {engine : Engine (Ledger τ)} (h : entry.built = some engine) :
      Responds entry ledger (.ok engine) entry ledger
  /-- The factory is called once and fails, and nothing is kept. -/
  | failed (h : entry.built = none) (error : EngineError) (world : τ) :
      Responds entry ledger (.error error) entry ⟨world, ledger.builds ++ [(entry.number, false)]⟩
  /-- The factory is called once and succeeds, and its engine is kept. -/
  | built (h : entry.built = none) (engine : Engine (Ledger τ)) (hengine : engine.Discreet)
      (world : τ) :
      Responds entry ledger (.ok engine) { entry with built := some engine }
        ⟨world, ledger.builds ++ [(entry.number, true)]⟩

/-- A factory records under its number. -/
@[simp] theorem number_entry (number : Nat) (descriptor : EngineDescriptor)
    (build : τ → Except EngineError (Engine τ) × τ) :
    (Ledger.entry number descriptor build).number = number := rfl

/-- A new entry is recorded. -/
theorem recorded_entry (number : Nat) (descriptor : EngineDescriptor)
    (build : τ → Except EngineError (Engine τ) × τ) :
    (Ledger.entry number descriptor build).Recorded :=
  ⟨⟨build, rfl⟩, by simp [Ledger.entry]⟩

/-- A recorded entry responds to a request. -/
theorem Recorded.responds {entry : EngineEntry (Ledger τ)} (h : entry.Recorded)
    (ledger : Ledger τ) :
    entry.Responds ledger (entry.request ledger).1.engine (entry.request ledger).2.1
      (entry.request ledger).2.2 := by
  obtain ⟨build, hbuild⟩ := h.build
  cases hkept : entry.built with
  | some engine =>
    simp only [request, hkept]
    exact .kept hkept
  | none =>
    rcases hmade : build ledger.world with ⟨made, world⟩
    have hfactory : entry.build ledger =
        (made.map Ledger.engine, ⟨world, ledger.builds ++ [(entry.number, made.isOk)]⟩) := by
      simp only [hbuild, Ledger.factory, hmade]
    cases made with
    | error error =>
      simp only [request, hkept, hfactory]
      exact .failed hkept error world
    | ok engine =>
      simp only [request, hkept, hfactory]
      exact .built hkept (Ledger.engine engine) (Ledger.discreet_engine engine) world

/-- A request leaves an entry its number, and an engine with which it is answered leaves the record
of builds alone. -/
theorem Recorded.request {entry : EngineEntry (Ledger τ)} (h : entry.Recorded)
    (ledger : Ledger τ) :
    (entry.request ledger).2.1.number = entry.number ∧ (entry.request ledger).2.1.Recorded ∧
      ∀ engine, (entry.request ledger).1.engine = .ok engine → engine.Discreet := by
  have hresponse := h.responds ledger
  generalize (entry.request ledger).1.engine = answer,
    (entry.request ledger).2.1 = next, (entry.request ledger).2.2 = after at hresponse ⊢
  cases hresponse with
  | kept hkept =>
    refine ⟨rfl, h, ?_⟩
    rintro _ ⟨⟩
    exact h.built _ hkept
  | failed hnone error world => exact ⟨rfl, h, by simp⟩
  | built hnone engine hengine world =>
    refine ⟨rfl, ⟨h.build, ?_⟩, ?_⟩ <;> (rintro _ ⟨⟩; exact hengine)

/-- An entry without an engine has it built on request, and a failed build leaves it without one. -/
theorem Recorded.request_of_not_instantiated {entry : EngineEntry (Ledger τ)} (h : entry.Recorded)
    (hnone : entry.isInstantiated = false) (ledger : Ledger τ) :
    (entry.request ledger).2.2.builds =
        ledger.builds ++ [(entry.number, (entry.request ledger).1.engine.isOk)] ∧
      (entry.request ledger).2.1.isInstantiated = (entry.request ledger).1.engine.isOk := by
  have hresponse := h.responds ledger
  generalize (entry.request ledger).1.engine = answer,
    (entry.request ledger).2.1 = next, (entry.request ledger).2.2 = after at hresponse ⊢
  cases hresponse with
  | kept hkept => simp [isInstantiated, hkept] at hnone
  | failed _ error world => exact ⟨rfl, hnone⟩
  | built => exact ⟨rfl, rfl⟩

/-- A request continues the course of its entry. -/
theorem Responds.course {entry next : EngineEntry (Ledger τ)} {ledger after : Ledger τ}
    {answer : Except EngineError (Engine (Ledger τ))}
    {answers : List (Except EngineError (Engine (Ledger τ)))}
    (hresponse : entry.Responds ledger answer next after)
    (h : Course answers (recordedUnder entry.number ledger.builds) entry.built) :
    Course (answers ++ [answer]) (recordedUnder entry.number after.builds) next.built := by
  cases hresponse with
  | kept hkept =>
    rw [hkept] at h ⊢
    exact h.keep
  | failed hnone error world =>
    rw [hnone] at h ⊢
    rw [recordedUnder_concat, if_pos rfl]
    exact h.build (.error error)
  | built hnone engine hengine world =>
    rw [hnone] at h
    rw [recordedUnder_concat, if_pos rfl]
    exact h.build (.ok engine)

/-- A request records nothing of other entries. -/
theorem Responds.recordedUnder_eq {entry next : EngineEntry (Ledger τ)} {ledger after : Ledger τ}
    {answer : Except EngineError (Engine (Ledger τ))}
    (hresponse : entry.Responds ledger answer next after) {number : Nat}
    (hnumber : entry.number ≠ number) :
    recordedUnder number after.builds = recordedUnder number ledger.builds := by
  cases hresponse with
  | kept => rfl
  | failed | built => simp [recordedUnder_concat, hnumber]

end EngineEntry

/-- The records of builds and of requests with their answers account for all entries that there
are: each entry has run its course. -/
structure Accounted [Inhabited τ] (entries : List (EngineEntry (Ledger τ)))
    (builds : List (Nat × Bool)) (requests : List (Nat × Except EngineError (Engine (Ledger τ)))) :
    Prop where
  /-- The entries are numbered. -/
  numbered : (entries.map EngineEntry.number).Perm (List.range entries.length)
  /-- Their factories are recorded. -/
  recorded : ∀ entry ∈ entries, entry.Recorded
  /-- Each entry has run its course. -/
  course : ∀ entry ∈ entries, Course (recordedUnder entry.number requests)
    (recordedUnder entry.number builds) entry.built
  /-- Nothing is recorded under numbers that are not given yet. -/
  unused : ∀ number, entries.length ≤ number →
    recordedUnder number requests = [] ∧ recordedUnder number builds = []
  /-- The engines that were answers leave the record of builds alone. -/
  discreet : ∀ request ∈ requests, ∀ engine, request.2 = .ok engine → engine.Discreet

namespace Accounted

variable [Inhabited τ] {entries : List (EngineEntry (Ledger τ))} {builds : List (Nat × Bool)}
  {requests : List (Nat × Except EngineError (Engine (Ledger τ)))}

/-- There is nothing to account for without entries. -/
theorem nil : Accounted ([] : List (EngineEntry (Ledger τ))) [] [] :=
  ⟨.nil, by simp, by simp, by simp [recordedUnder], by simp⟩

/-- No two entries have the same number. -/
theorem nodup (h : Accounted entries builds requests) : (entries.map EngineEntry.number).Nodup :=
  h.numbered.nodup_iff.mpr List.nodup_range

/-- Numbers are given in order. -/
theorem number_lt (h : Accounted entries builds requests) {entry : EngineEntry (Ledger τ)}
    (hentry : entry ∈ entries) : entry.number < entries.length :=
  List.mem_range.mp (h.numbered.mem_iff.mp (List.mem_map_of_mem hentry))

/-- The order of the entries does not matter. -/
theorem perm (h : Accounted entries builds requests) {others : List (EngineEntry (Ledger τ))}
    (hperm : others.Perm entries) : Accounted others builds requests := by
  refine ⟨?_, fun entry hentry => h.recorded entry (hperm.mem_iff.mp hentry),
    fun entry hentry => h.course entry (hperm.mem_iff.mp hentry), ?_, h.discreet⟩
  · rw [hperm.length_eq]
    exact (hperm.map _).trans h.numbered
  · rw [hperm.length_eq]
    exact h.unused

/-- A new entry is at the beginning of its course. -/
theorem add (h : Accounted entries builds requests) (descriptor : EngineDescriptor)
    (build : τ → Except EngineError (Engine τ) × τ) :
    Accounted (Ledger.entry entries.length descriptor build :: entries) builds requests := by
  obtain ⟨hrequests, hbuilds⟩ := h.unused entries.length (Nat.le_refl _)
  refine ⟨?_, ?_, ?_, fun number hnumber => h.unused number ?_, h.discreet⟩
  · rw [List.length_cons, List.range_succ]
    exact (h.numbered.cons _).trans (List.perm_append_singleton ..).symm
  · exact List.forall_mem_cons.mpr ⟨EngineEntry.recorded_entry .., h.recorded⟩
  · refine List.forall_mem_cons.mpr ⟨?_, h.course⟩
    rw [EngineEntry.number_entry, hrequests, hbuilds]
    exact .unbuilt []
  · exact Nat.le_of_succ_le hnumber

/-- A request is accounted for. -/
theorem request {entry : EngineEntry (Ledger τ)} {ledger : Ledger τ}
    (h : Accounted (entry :: entries) ledger.builds requests) :
    Accounted ((entry.request ledger).2.1 :: entries) (entry.request ledger).2.2.builds
      (requests ++ [(entry.number, (entry.request ledger).1.engine)]) := by
  have hentry : entry.Recorded := h.recorded entry List.mem_cons_self
  have hresponse := hentry.responds ledger
  obtain ⟨hnumber, hrecorded, hdiscreet⟩ := hentry.request ledger
  -- Under another number nothing is recorded.
  have hother {number : Nat} (hne : entry.number ≠ number) :
      recordedUnder number (requests ++ [(entry.number, (entry.request ledger).1.engine)]) =
          recordedUnder number requests ∧
        recordedUnder number (entry.request ledger).2.2.builds =
          recordedUnder number ledger.builds := by
    refine ⟨?_, hresponse.recordedUnder_eq hne⟩
    rw [recordedUnder_concat, if_neg hne, List.append_nil]
  refine ⟨?_, ?_, List.forall_mem_cons.mpr ⟨?_, fun other hmem => ?_⟩, fun number hunused => ?_, ?_⟩
  · rw [List.map_cons, hnumber]
    exact h.numbered
  · exact List.forall_mem_cons.mpr
      ⟨hrecorded, fun other hmem => h.recorded other (List.mem_cons_of_mem _ hmem)⟩
  · rw [hnumber, recordedUnder_concat, if_pos rfl]
    exact hresponse.course (h.course entry List.mem_cons_self)
  · have hne : entry.number ≠ other.number := fun heq =>
      (List.nodup_cons.mp h.nodup).1 (heq ▸ List.mem_map_of_mem hmem)
    rw [(hother hne).1, (hother hne).2]
    exact h.course other (List.mem_cons_of_mem _ hmem)
  · have hne : entry.number ≠ number :=
      Nat.ne_of_lt (Nat.lt_of_lt_of_le (h.number_lt List.mem_cons_self) hunused)
    rw [(hother hne).1, (hother hne).2]
    exact h.unused number hunused
  · intro made hmade engine hengine
    rcases List.mem_append.mp hmade with hbefore | hnow
    · exact h.discreet made hbefore engine hengine
    · cases List.mem_singleton.mp hnow
      exact hdiscreet engine hengine

end Accounted

end TemplateInspector
