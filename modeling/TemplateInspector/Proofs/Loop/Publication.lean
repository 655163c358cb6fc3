import TemplateInspector.Proofs.Controller.Vocabulary
import TemplateInspector.Proofs.Loop.Run

/-!
# What a loop has published

After every step the loop publishes a snapshot, unless it is the same as the last one. Two snapshots
are the same if they differ in nothing but the names of languages, so what was published can go on
to show a language under a name that it had before. If all languages in play are named after their
identifiers in one way, what was published is what the session shows.
-/

namespace TemplateInspector

variable {σ : Type}

/-! ## Names of languages -/

/-- The language under the name that a naming gives to its identifier. -/
def Language.rename (name : String → String) (language : Language) : Language where
  id := language.id
  name := name language.id

/-- A language is named as a naming says. -/
def Language.Follows (name : String → String) (language : Language) : Prop :=
  language.rename name = language

instance (name : String → String) : DecidablePred (Language.Follows name) :=
  fun language => inferInstanceAs (Decidable (language.rename name = language))

/-- The snapshot with all languages renamed. -/
def Snapshot.rename (name : String → String) (snapshot : Snapshot) : Snapshot :=
  { snapshot with
    language := snapshot.language.map (Language.rename name)
    languages := snapshot.languages.map (Language.rename name) }

/-- Renamed languages agree exactly if their identifiers do. -/
theorem Language.rename_eq_iff {name : String → String} {a b : Language} :
    a.rename name = b.rename name ↔ a.same b = true := by
  rw [same_iff, rename, rename, Language.mk.injEq]
  exact ⟨And.left, fun h => ⟨h, by rw [h]⟩⟩

/-- Renamed optional languages agree exactly if they are the same. -/
theorem Language.map_rename_eq_iff {name : String → String} {a b : Option Language} :
    a.map (rename name) = b.map (rename name) ↔ sameOption a b = true := by
  cases a <;> cases b <;> simp [sameOption, rename_eq_iff]

/-- Renamed lists of languages agree exactly if they are the same. -/
theorem Language.map_rename_eq_iff_sameList {name : String → String} {as bs : List Language} :
    as.map (rename name) = bs.map (rename name) ↔ sameList as bs = true := by
  induction as generalizing bs with
  | nil => cases bs <;> simp [sameList]
  | cons a as ih => cases bs <;> simp [sameList, rename_eq_iff, ih]

/-- Two snapshots are the same exactly if they agree once their languages are renamed alike. -/
theorem Snapshot.same_iff_rename (name : String → String) {a b : Snapshot} :
    a.same b = true ↔ a.rename name = b.rename name := by
  simp only [same, rename, Snapshot.mk.injEq, Language.map_rename_eq_iff,
    Language.map_rename_eq_iff_sameList, Bool.and_eq_true, beq_iff_eq, decide_eq_true_eq, and_assoc]

/-- A snapshot is the same as itself. -/
theorem Snapshot.same_refl (snapshot : Snapshot) : snapshot.same snapshot = true :=
  (same_iff_rename id).mpr rfl

/-! ## Languages that are shown -/

/-- All languages that a snapshot shows have a property. -/
structure Snapshot.Speaks (P : Language → Prop) (snapshot : Snapshot) : Prop where
  /-- The selected language has it. -/
  language : ∀ language ∈ snapshot.language, P language
  /-- The languages of the selected engine have it. -/
  languages : ∀ language ∈ snapshot.languages, P language

/-- Renaming changes nothing if all names are as the naming says. -/
theorem Snapshot.rename_eq_self {name : String → String} {snapshot : Snapshot}
    (h : snapshot.Speaks (Language.Follows name)) : snapshot.rename name = snapshot := by
  have hlanguage : snapshot.language.map (Language.rename name) = snapshot.language :=
    (Option.map_congr h.language).trans Option.map_id'
  have hlanguages : snapshot.languages.map (Language.rename name) = snapshot.languages :=
    (List.map_congr_left h.languages).trans (List.map_id' _)
  rw [rename, hlanguage, hlanguages]

/-- Two snapshots that are the same are equal if one naming says how all their languages are
named. -/
theorem Snapshot.eq_of_same {name : String → String} {a b : Snapshot} (h : a.same b = true)
    (ha : a.Speaks (Language.Follows name)) (hb : b.Speaks (Language.Follows name)) : a = b :=
  calc
    a = a.rename name := (rename_eq_self ha).symm
    _ = b.rename name := (same_iff_rename name).mp h
    _ = b := rename_eq_self hb

section Speaking

variable {P : Language → Prop}

/-- A session shows none but its languages in play. -/
theorem Session.Speaks.snapshot {s : Session σ} (h : s.Speaks P) : s.snapshot.Speaks P where
  language := h.language
  languages := Selection.mem_languages h.catalog

/-- The languages that a command names have a property. -/
def Command.Speaks (P : Language → Prop) : Command → Prop
  | .selectLanguage given => ∀ language ∈ given, P language
  | .setText _ | .selectEngine _ | .setDesignTime _ | .flush | .shutdown => True

/-- The languages that are named when something happens have a property. -/
def Happening.Speaks (P : Language → Prop) : Happening σ → Prop
  | .send command => command.Speaks P
  | .register entry => ∀ language ∈ entry.descriptor.languages, P language
  | .serve _ | .unregister _ | .reportFailure _ | .elapse _ | .drift _ => True

namespace Loop

/-- All languages that a loop knows of have a property. -/
structure Speaks (P : Language → Prop) (l : Loop σ) : Prop where
  /-- Those in play have it. -/
  session : l.session.Speaks P
  /-- Those that are named by the commands that wait have it. -/
  inbox : ∀ command ∈ l.inbox, command.Speaks P
  /-- Those that were shown last have it. -/
  published : l.published.Speaks P

/-- A loop that has just been started shows what its session shows. -/
theorem speaks_spawn {session : Session σ} (h : session.Speaks P) : (spawn session).Speaks P where
  session := h
  inbox := by simp [spawn]
  published := h.snapshot

/-- What is published shows no languages but those in play. -/
theorem Speaks.publish {l : Loop σ} (h : l.Speaks P) : l.publish.Speaks P := by
  simp only [Loop.publish]
  split
  · exact h
  · exact ⟨h.session, h.inbox, h.session.snapshot⟩

/-- A generation brings in no languages. -/
theorem Speaks.generate {l : Loop σ} (h : l.Speaks P) : l.generate.Speaks P := by
  have hbegin := h.session.begin
  unfold Loop.generate
  split
  case h_1 session hidle =>
    rw [hidle] at hbegin
    exact ⟨hbegin, h.inbox, h.published⟩
  case h_2 session pending hbegun =>
    rw [hbegun] at hbegin
    have hpublished : ({ l with session } : Loop σ).publish.Speaks P :=
      Speaks.publish ⟨hbegin, h.inbox, h.published⟩
    exact ⟨hpublished.session.complete pending _, hpublished.inbox, hpublished.published⟩

/-- A command brings in no languages but those that it names. -/
theorem Speaks.apply {l : Loop σ} (h : l.Speaks P) {command : Command}
    (hcommand : command.Speaks P) : (l.apply command).Speaks P := by
  have hedit (input : Input) (hinput : input.Speaks P) :
      (l.session.edit l.clock (.input input)).1.Speaks P :=
    h.session.edit (.input input) hinput l.clock
  cases command with
  | setText text => exact ⟨hedit (.text text) trivial, h.inbox, h.published⟩
  | selectEngine id =>
    have hselected := hedit (.engine id) trivial
    simp only [Session.edit, Session.input] at hselected
    simp only [Loop.apply]
    cases hselect : l.session.selectEngine id l.clock with
    | error error => exact h
    | ok next =>
      rw [hselect] at hselected
      exact ⟨hselected, h.inbox, h.published⟩
  | selectLanguage language =>
    exact ⟨hedit (.language language) hcommand, h.inbox, h.published⟩
  | setDesignTime designTime =>
    exact ⟨hedit (.designTime designTime) trivial, h.inbox, h.published⟩
  | flush => exact h.generate
  | shutdown => exact ⟨h.session, h.inbox, h.published⟩

/-- No source of work brings in languages, but for those that the served command names. -/
theorem Speaks.served {l next : Loop σ} {source : WorkSource} (h : l.Speaks P)
    (hserved : l.Served source next) : next.Speaks P := by
  cases hserved with
  | @command command inbox applied hinbox happlied =>
    have hcommands := h.inbox
    rw [hinbox] at hcommands
    obtain ⟨hcommand, hothers⟩ := List.forall_mem_cons.mp hcommands
    have hwaiting : ({ l with inbox } : Loop σ).Speaks P := ⟨h.session, hothers, h.published⟩
    have happly : applied.Speaks P := happlied ▸ hwaiting.apply hcommand
    split
    · exact happly.publish
    · exact happly
  | event hreceive =>
    refine Speaks.publish ⟨?_, h.inbox, h.published⟩
    exact h.session.edit (.input .registryChanged) trivial l.clock
  | deadline hdue => exact h.generate.publish

/-- Whatever happens brings in no languages but those that it names. -/
theorem Speaks.happen {l : Loop σ} (h : l.Speaks P) {happening : Happening σ}
    (hhappening : happening.Speaks P) : (l.happen happening).Speaks P := by
  have hmutate (edit : Edit σ) (hedit : edit.Speaks P) : (l.mutate edit).Speaks P :=
    ⟨h.session.edit edit hedit l.clock, h.inbox, h.published⟩
  cases happening with
  | serve source =>
    rcases l.happen_serve source with hidle | ⟨next, hnext, hserved⟩
    · rw [hidle]
      exact h
    · rw [hnext]
      exact h.served hserved
  | send command =>
    rw [happen_send]
    split
    · refine ⟨h.session, fun waiting hwaiting => ?_, h.published⟩
      rcases List.mem_append.mp hwaiting with hold | hsent
      · exact h.inbox waiting hold
      · exact List.mem_singleton.mp hsent ▸ hhappening
    · exact h
  | register entry => exact hmutate (.register entry) hhappening
  | unregister id => exact hmutate (.unregister id) trivial
  | reportFailure error => exact hmutate (.reportFailure error) trivial
  | elapse now => exact ⟨h.session, h.inbox, h.published⟩
  | drift world => exact ⟨h.session.of_eq rfl h.session.catalog, h.inbox, h.published⟩

/-- A run brings in no languages but those that are named in it. -/
theorem Speaks.run {l : Loop σ} (h : l.Speaks P) {happenings : List (Happening σ)}
    (hhappenings : ∀ happening ∈ happenings, happening.Speaks P) :
    (l.run happenings).Speaks P :=
  List.foldlRecOn happenings Loop.happen h fun _ hspeaks happening hhappening =>
    hspeaks.happen (hhappenings happening hhappening)

end Loop

end Speaking

/-! ## What is published -/

namespace Loop

/-- What is published is the same as what the session shows. -/
theorem same_publish (l : Loop σ) : l.publish.published.same l.session.snapshot = true := by
  simp only [publish]
  split
  case isTrue hsame => exact hsame
  case isFalse => exact l.session.snapshot.same_refl

/-- After a step that does not stop the loop, what is published is the same as what the session
shows. -/
theorem same_of_served {l next : Loop σ} {source : WorkSource} (h : l.Served source next)
    (hrunning : next.running = true) : next.published.same next.session.snapshot = true := by
  cases h with
  | @command command inbox applied hinbox happlied =>
    cases hgoing : applied.running with
    | false => simp [hgoing] at hrunning
    | true => simpa using same_publish applied
  | event hreceive => simpa using same_publish _
  | deadline hdue => simpa using same_publish l.generate

/-- After every step that does not stop it, a loop has published what its session shows, but for the
names of languages. If one naming says how all languages in play are named, it has published just
what its session shows. -/
theorem published_up_to_names {session : Session σ} {happenings : List (Happening σ)}
    {source : WorkSource} {next : Loop σ}
    (hserve : ((spawn session).run happenings).serve source = some next)
    (hrunning : next.running = true) :
    (∀ name, next.published.rename name = next.session.snapshot.rename name) ∧
      ∀ name, session.Speaks (Language.Follows name) →
        (∀ happening ∈ happenings, happening.Speaks (Language.Follows name)) →
        next.published = next.session.snapshot := by
  obtain ⟨-, hserved⟩ := served_of_serve hserve
  have hsame := same_of_served hserved hrunning
  refine ⟨fun name => (Snapshot.same_iff_rename name).mp hsame, ?_⟩
  intro name hsession hhappenings
  have hspeaks := ((speaks_spawn hsession).run hhappenings).served hserved
  exact Snapshot.eq_of_same hsame hspeaks.published hspeaks.session.snapshot

/-- An engine is removed and registered again before the loop learns of either. -/
theorem published_up_to_names_registered_again :
    let session := (Drive.rehearse [.fail (.generation "overrun")]).session
    let entry := (Rehearsal.enlist {} ⟨"echo", "Echo", [⟨"text", "Text"⟩]⟩ []).1
    let naming : String → String := fun _ => "Text"
    let happenings : List (Happening Rehearsal) :=
      [.send (.setText "x"), .serve .command, .unregister "echo", .register entry,
        .send (.selectLanguage (some ⟨"text", "Text"⟩)), .serve .event, .elapse 200,
        .serve .deadline]
    ∃ next, ((spawn session).run happenings).serve .command = some next ∧ next.running = true ∧
      session.Speaks (Language.Follows naming) ∧
      (∀ happening ∈ happenings, happening.Speaks (Language.Follows naming)) ∧
      (∀ name, next.published.rename name = next.session.snapshot.rename name) ∧
      next.published = next.session.snapshot := by
  intro session entry naming happenings
  have hserve : (((spawn session).run happenings).serve .command).isSome = true := by decide
  obtain ⟨next, hnext⟩ := Option.isSome_iff_exists.mp hserve
  have hrunning : (((spawn session).run happenings).serve .command).any Loop.running = true := by
    decide
  rw [hnext] at hrunning
  have hsession : session.Speaks (Language.Follows naming) := by
    refine ⟨by decide, ?_⟩
    unfold SpeaksOnly
    decide
  have hentry : ∀ language ∈ entry.descriptor.languages, Language.Follows naming language := by
    decide
  have hhappenings : ∀ happening ∈ happenings, happening.Speaks (Language.Follows naming) := by
    simpa [happenings, Happening.Speaks, Command.Speaks, naming, Language.Follows,
      Language.rename] using hentry
  obtain ⟨hnames, hequal⟩ := published_up_to_names hnext hrunning
  exact ⟨next, hnext, hrunning, hsession, hhappenings, hnames, hequal naming hsession hhappenings⟩

/-- With a language that is selected again under a new name, a loop goes on to show the old one. -/
theorem published_outdated_name :
    let happenings : List (Happening Unit) :=
      [.send (.selectLanguage (some ⟨"text", "Plain text"⟩)), .serve .command,
        .send (.selectLanguage (some ⟨"text", "Text"⟩))]
    ∃ next, ((spawn (.initial {} {} {} ())).run happenings).serve .command = some next ∧
      next.running = true ∧
      next.published.language = some ⟨"text", "Plain text"⟩ ∧
      next.session.snapshot.language = some ⟨"text", "Text"⟩ :=
  ⟨_, rfl, rfl, rfl, rfl⟩

end Loop

end TemplateInspector
