import Mathlib.Data.List.Nodup
import Mathlib.Logic.Relation
import TemplateInspector.Proofs.Json.Fields

/-!
# Values that are read alike

A schema says which fields the records of a format declare, which of these have defaults, and which
hold records again. A step changes one object of a value, at any depth: its fields change places, a
record gets a field that it does not declare, or a declared one that is missing is given its
default. A record that is taken from a value before and after a step has the same fields, up to what
the step did inside one of them or to a default.
-/

namespace TemplateInspector.Json

variable {κ : Type}

/-! ## Schemas -/

/-- What the records of a format hold in a field, as far as other records go. -/
inductive Part (κ : Type)
  /-- No records. -/
  | plain
  /-- A record of a kind. -/
  | one (kind : κ)
  /-- A list of records of a kind. -/
  | many (kind : κ)

/-- A field that a kind of record declares. -/
structure FieldRule (κ : Type) where
  /-- The name of the field. -/
  name : String
  /-- What the field holds. -/
  part : Part κ
  /-- The value that a missing field stands for; none for a field that has to be given. -/
  default? : Option Json

/-- The fields that the kinds of records of a format declare, in order. -/
structure Schema (κ : Type) where
  /-- The fields of a kind. -/
  fields : κ → List (FieldRule κ)
  /-- No kind declares a name twice. -/
  nodup : ∀ kind, ((fields kind).map FieldRule.name).Nodup

namespace Schema

variable (schema : Schema κ)

/-- What a field of an object holds. Fields that are not declared hold no records. -/
def inField : Part κ → Option String → Part κ
  | .one kind, name =>
    ((schema.fields kind).find? fun rule => some rule.name = name).elim .plain FieldRule.part
  | _, _ => .plain

/-- What an item of an array holds: an array is a list of records, or a record with its fields in
the order in which they are declared. -/
def inItem : Part κ → Nat → Part κ
  | .one kind, i => (schema.fields kind)[i]?.elim .plain FieldRule.part
  | .many kind, _ => .one kind
  | .plain, _ => .plain

/-- A change of one object of a value. -/
inductive Step : Part κ → Json → Json → Prop
  /-- The fields of an object change places. -/
  | permute {part : Part κ} {fields others : List (Option String × Json)}
      (h : fields.Perm others) : Step part (.object fields) (.object others)
  /-- A record gets a field that it does not declare. -/
  | undeclared {kind : κ} {fields : List (Option String × Json)} {name : String} (value : Json)
      (h : ∀ rule ∈ schema.fields kind, rule.name ≠ name) :
      Step (.one kind) (.object fields) (.object ((some name, value) :: fields))
  /-- A field that is missing is given its default. -/
  | default {kind : κ} {fields : List (Option String × Json)} {rule : FieldRule κ} {value : Json}
      (hrule : rule ∈ schema.fields kind) (hdefault : rule.default? = some value)
      (hmissing : ∀ field ∈ fields, field.1 ≠ some rule.name) :
      Step (.one kind) (.object fields) (.object ((some rule.name, value) :: fields))
  /-- Something changes inside a field. -/
  | field {part : Part κ} (before : List (Option String × Json)) (name : Option String)
      {value changed : Json} (after : List (Option String × Json))
      (h : Step (schema.inField part name) value changed) :
      Step part (.object (before ++ (name, value) :: after))
        (.object (before ++ (name, changed) :: after))
  /-- Something changes inside an item. -/
  | item {part : Part κ} (before : List Json) {value changed : Json} (after : List Json)
      (h : Step (schema.inItem part before.length) value changed) :
      Step part (.array (before ++ value :: after)) (.array (before ++ changed :: after))

/-- Two values differ by any number of steps, in either direction, between values that are within
the limits of what can be kept. -/
def Varies (part : Part κ) : Json → Json → Prop :=
  Relation.EqvGen fun value changed => schema.Step part value changed ∧ changed.isKeepable maxLevels

end Schema

/-! ## What a step keeps -/

namespace Schema

variable {schema : Schema κ} {part : Part κ} {value changed : Json} {levels : Nat}

/-- What can be kept after a step could be kept before it. -/
theorem Step.isKeepable (h : schema.Step part value changed) (hkeep : changed.isKeepable levels) :
    value.isKeepable levels := by
  induction h generalizing levels with
  | permute h =>
    rw [isKeepable_object] at hkeep ⊢
    exact ⟨hkeep.1, fun field hfield => hkeep.2 field (h.mem_iff.mp hfield)⟩
  | undeclared value h =>
    rw [isKeepable_object, List.forall_mem_cons] at hkeep
    exact isKeepable_object.mpr ⟨hkeep.1, hkeep.2.2⟩
  | default hrule hdefault hmissing =>
    rw [isKeepable_object, List.forall_mem_cons] at hkeep
    exact isKeepable_object.mpr ⟨hkeep.1, hkeep.2.2⟩
  | field before name after h ih =>
    simp only [isKeepable_object, List.forall_mem_append, List.forall_mem_cons] at hkeep ⊢
    obtain ⟨hpos, hbefore, ⟨hname, hchanged⟩, hafter⟩ := hkeep
    exact ⟨hpos, hbefore, ⟨hname, ih hchanged⟩, hafter⟩
  | item before after h ih =>
    simp only [isKeepable_array, List.forall_mem_append, List.forall_mem_cons] at hkeep ⊢
    obtain ⟨hpos, hbefore, hchanged, hafter⟩ := hkeep
    exact ⟨hpos, hbefore, ih hchanged, hafter⟩

/-! ## Readers of plain values -/

/-- A step changes an object or an array. -/
theorem Step.ne_of_atom (h : schema.Step part value changed) (atom : Json)
    (hobject : ∀ fields, .object fields ≠ atom) (harray : ∀ items, .array items ≠ atom) :
    value ≠ atom ∧ changed ≠ atom := by
  cases h with
  | item => exact ⟨harray _, harray _⟩
  | _ => exact ⟨hobject _, hobject _⟩

/-- A step changes no text. -/
theorem Step.text?_eq (h : schema.Step part value changed) : value.text? = changed.text? := by
  cases h <;> rfl

theorem Step.bool?_eq (h : schema.Step part value changed) : value.bool? = changed.bool? := by
  cases h <;> rfl

theorem Step.word?_eq (h : schema.Step part value changed) : value.word? = changed.word? := by
  cases h <;> rfl

theorem Step.nullable_eq {α : Type} {decode : Json → Option α}
    (h : schema.Step part value changed) (hdecode : decode value = decode changed) :
    nullable decode value = nullable decode changed := by
  cases h <;> exact congrArg (Option.map some) hdecode

/-- The name of a variant is the same after a step that adds no field. -/
theorem Step.variant?_eq (h : schema.Step .plain value changed) (levels : Nat) :
    variant? levels value = variant? levels changed := by
  cases h with
  | permute hperm =>
    refine Option.ext fun name => ?_
    rw [variant?_object, variant?_object]
    refine and_congr_right fun _ => ⟨?_, ?_⟩
    · rintro rfl
      exact (List.singleton_perm.mp hperm).symm
    · rintro rfl
      exact List.perm_singleton.mp hperm
  | @field _ before name value changed after hinside =>
    have hnull := hinside.ne_of_atom .null (by simp) (by simp)
    have hnone (other : Json) (hother : other ≠ .null) :
        variant? levels (.object (before ++ (name, other) :: after)) = none := by
      refine Option.eq_none_iff_forall_ne_some.mpr fun found hfound => ?_
      have hmem : (name, other) ∈ [(some found, Json.null)] := by
        rw [← (variant?_object.mp hfound).2]
        simp
      exact hother (Prod.mk.inj (List.mem_singleton.mp hmem)).2
    rw [hnone value hnull.1, hnone changed hnull.2]
  | item => cases levels <;> rfl

/-- The items of a list are read alike if each is. -/
theorem Step.items?_eq {α : Type} {decode : Nat → Json → Option α}
    (h : schema.Step part value changed) (hkeep : changed.isKeepable levels)
    (hitem : ∀ level < levels, ∀ i item other, schema.Step (schema.inItem part i) item other →
      other.isKeepable level → decode level item = decode level other) :
    items? decode levels value = items? decode levels changed := by
  cases levels with
  | zero => cases h <;> rfl
  | succ level =>
    cases h with
    | @item _ before value changed after hinside =>
      have hchanged : changed.isKeepable level :=
        (isKeepable_array.mp hkeep).2 changed (by simp)
      have heq := hitem level (Nat.lt_succ_self level) before.length value changed hinside hchanged
      simp only [items?, List.mapM_append, List.mapM_cons, heq]
    | _ => rfl

/-! ## Records -/

/-- What a step does to the value of a declared field. -/
inductive Entry (schema : Schema κ) (levels : Nat) (rule : FieldRule κ) :
    Option Json → Option Json → Prop
  /-- Nothing. -/
  | same {value? : Option Json} : Entry schema levels rule value? value?
  /-- Something changes inside it. -/
  | inside {value changed : Json} (h : schema.Step rule.part value changed)
      (hkeep : changed.isKeepable levels) : Entry schema levels rule (some value) (some changed)
  /-- It is missing and is given its default. -/
  | default {value : Json} (hdefault : rule.default? = some value)
      (hkeep : value.isKeepable levels) : Entry schema levels rule none (some value)

/-- A field without a default is missing before and after a step or there before and after it. -/
theorem Entry.none_or_some {rule : FieldRule κ} {value? changed? : Option Json}
    (h : Entry schema levels rule value? changed?) (hgiven : rule.default? = none) :
    value? = none ∧ changed? = none ∨ ∃ value changed, value? = some value ∧
      changed? = some changed ∧
        (value = changed ∨ schema.Step rule.part value changed ∧ changed.isKeepable levels) := by
  cases h with
  | same =>
    cases value? with
    | none => exact .inl ⟨rfl, rfl⟩
    | some value => exact .inr ⟨value, value, rfl, rfl, .inl rfl⟩
  | inside h hkeep => exact .inr ⟨_, _, rfl, rfl, .inr ⟨h, hkeep⟩⟩
  | default hdefault =>
    rw [hgiven] at hdefault
    cases hdefault

/-- A field that has to be given is read alike if what is inside is. -/
theorem Entry.required_eq {α : Type} (decode : Json → Option α) {rule : FieldRule κ}
    {value? changed? : Option Json} (h : Entry schema levels rule value? changed?)
    (hgiven : rule.default? = none)
    (hinside : ∀ value changed, schema.Step rule.part value changed →
      changed.isKeepable levels → decode value = decode changed) :
    required decode value? = required decode changed? := by
  rcases h.none_or_some hgiven with ⟨rfl, rfl⟩ | ⟨value, changed, rfl, rfl, rfl | ⟨hstep, hkeep⟩⟩
  · rfl
  · rfl
  · exact hinside value changed hstep hkeep

/-- A field with a default is read alike if what is inside is and the default is read as such. -/
theorem Entry.defaulted_eq {α : Type} (decode : Json → Option α) (default : α) {given : Json}
    {rule : FieldRule κ} {value? changed? : Option Json}
    (h : Entry schema levels rule value? changed?) (hgiven : rule.default? = some given)
    (hdefault : given.isKeepable levels → decode given = some default)
    (hinside : ∀ value changed, schema.Step rule.part value changed →
      changed.isKeepable levels → decode value = decode changed) :
    defaulted decode default value? = defaulted decode default changed? := by
  cases h with
  | same => rfl
  | inside h hkeep => exact hinside _ _ h hkeep
  | default hvalue hkeep =>
    obtain rfl := Option.some.inj (hgiven.symm.trans hvalue)
    exact (hdefault hkeep).symm

/-- A list that is empty by default is read alike if its items are. -/
theorem Entry.defaulted_items?_eq {α : Type} (decode : Nat → Json → Option α)
    {rule : FieldRule κ} {value? changed? : Option Json}
    (h : Entry schema levels rule value? changed?) (hgiven : rule.default? = some (.array []))
    (hitem : ∀ level < levels, ∀ i item other, schema.Step (schema.inItem rule.part i) item other →
      other.isKeepable level → decode level item = decode level other) :
    defaulted (items? decode levels) [] value? = defaulted (items? decode levels) [] changed? := by
  refine h.defaulted_eq _ _ hgiven (fun hkeep => ?_)
    fun _ _ hstep hkeep => hstep.items?_eq hkeep hitem
  obtain ⟨level, rfl⟩ := Nat.exists_eq_add_one.mpr (isKeepable_array.mp hkeep).1
  rfl

/-- What a step does to the values of declared fields. -/
inductive Entries (schema : Schema κ) (levels : Nat) :
    List (FieldRule κ) → List (Option Json) → List (Option Json) → Prop
  /-- No fields are declared. -/
  | nil : Entries schema levels [] [] []
  /-- One field after another. -/
  | cons {rule : FieldRule κ} {value? changed? : Option Json} {rules : List (FieldRule κ)}
      {values changes : List (Option Json)} (hentry : Entry schema levels rule value? changed?)
      (hothers : Entries schema levels rules values changes) :
      Entries schema levels (rule :: rules) (value? :: values) (changed? :: changes)

/-- What holds of each declared field by its name. -/
theorem Entries.of_forall {rules : List (FieldRule κ)} {values changes : String → Option Json}
    (h : ∀ rule ∈ rules, Entry schema levels rule (values rule.name) (changes rule.name)) :
    Entries schema levels rules ((rules.map FieldRule.name).map values)
      ((rules.map FieldRule.name).map changes) := by
  induction rules with
  | nil => exact .nil
  | cons rule rules ih =>
    obtain ⟨hrule, hrules⟩ := List.forall_mem_cons.mp h
    exact .cons hrule (ih hrules)

/-- A declared name has one rule. -/
theorem eq_of_name_eq {kind : κ} {rule other : FieldRule κ} (hrule : rule ∈ schema.fields kind)
    (hother : other ∈ schema.fields kind) (h : rule.name = other.name) : rule = other :=
  List.inj_on_of_nodup_map (schema.nodup kind) hrule hother h

/-- A declared field holds what its rule says. -/
theorem inField_of_mem {kind : κ} {rule : FieldRule κ} (h : rule ∈ schema.fields kind) :
    schema.inField (.one kind) (some rule.name) = rule.part := by
  obtain ⟨found, hfound⟩ := Option.isSome_iff_exists.mp <|
    List.find?_isSome (p := fun other => some other.name = some rule.name).mpr ⟨rule, h, by simp⟩
  have hname : found.name = rule.name := by simpa using List.find?_some hfound
  rw [inField, hfound, eq_of_name_eq (List.mem_of_find?_eq_some hfound) h hname]
  rfl

/-- The fields of an object are taken alike before and after a step that keeps its names well
formed, repeats none, and keeps the values of declared fields up to what a step may do. -/
theorem rel_record?_object {rules : List (FieldRule κ)}
    {fields others : List (Option String × Json)}
    (hnamed : fields.all (·.1.isSome) = others.all (·.1.isSome))
    (hrules : ∀ rule ∈ rules,
      (countField rule.name fields ≤ 1 ↔ countField rule.name others ≤ 1) ∧
        (countField rule.name fields ≤ 1 → Entry schema levels rule
          (field? rule.name (.object fields)) (field? rule.name (.object others)))) :
    Option.Rel (Entries schema levels rules) (record? (rules.map FieldRule.name) (.object fields))
      (record? (rules.map FieldRule.name) (.object others)) := by
  have honce : (rules.map FieldRule.name).all (fun name => countField name fields ≤ 1) =
      (rules.map FieldRule.name).all fun name => countField name others ≤ 1 := by
    rw [Bool.eq_iff_iff, List.all_eq_true, List.all_eq_true]
    simp only [List.forall_mem_map, decide_eq_true_eq]
    exact forall₂_congr fun rule hrule => (hrules rule hrule).1
  rw [record?, record?, ← hnamed, ← honce]
  split
  case isTrue hall =>
    simp only [Bool.and_eq_true, List.all_eq_true, List.forall_mem_map, decide_eq_true_eq] at hall
    exact .some (.of_forall fun rule hrule => (hrules rule hrule).2 (hall.2 rule hrule))
  case isFalse => exact .none

/-- Fields that are the same before and after a step. -/
theorem Entries.refl {rules : List (FieldRule κ)} {values : List (Option Json)}
    (h : values.length = rules.length) : Entries schema levels rules values values := by
  induction rules generalizing values with
  | nil =>
    obtain rfl := List.eq_nil_of_length_eq_zero h
    exact .nil
  | cons rule rules ih =>
    obtain ⟨value, others, rfl⟩ := List.exists_cons_of_length_eq_add_one h
    exact .cons .same (ih (Nat.succ.inj h))

/-- Fields of which one changes. -/
theorem Entries.of_item {rules : List (FieldRule κ)} {before after : List (Option Json)}
    {value? changed? : Option Json} (hlength : (before ++ value? :: after).length = rules.length)
    (h : ∀ rule ∈ rules[before.length]?, Entry schema levels rule value? changed?) :
    Entries schema levels rules (before ++ value? :: after) (before ++ changed? :: after) := by
  induction before generalizing rules with
  | nil =>
    obtain ⟨rule, rules, rfl⟩ := List.exists_cons_of_length_eq_add_one hlength.symm
    exact .cons (h rule rfl) (.refl (Nat.succ.inj hlength))
  | cons first before ih =>
    obtain ⟨rule, rules, rfl⟩ := List.exists_cons_of_length_eq_add_one hlength.symm
    exact .cons .same (ih (Nat.succ.inj hlength) h)

/-- A record is taken alike before and after a step, up to what the step did to a declared field. -/
theorem Step.rel_record? {kind : κ} (h : schema.Step (.one kind) value changed)
    (hkeep : changed.isKeepable (levels + 1)) :
    Option.Rel (Entries schema levels (schema.fields kind))
      (record? ((schema.fields kind).map FieldRule.name) value)
      (record? ((schema.fields kind).map FieldRule.name) changed) := by
  cases h with
  | @permute _ fields others hperm =>
    refine rel_record?_object hperm.all_eq fun rule hrule => ⟨?_, fun hone => ?_⟩
    · rw [countField, countField, hperm.countP_eq]
    · rw [field?, field?, find?_eq_of_perm hperm hone]
      exact .same
  | @undeclared _ fields name value hname =>
    refine rel_record?_object (by simp) fun rule hrule => ?_
    have hne := (hname rule hrule).symm
    rw [countField_cons_of_ne (by simpa using hne), field?_cons_of_ne (by simpa using hne)]
    exact ⟨.rfl, fun _ => .same⟩
  | @default _ fields rule value hrule hdefault hmissing =>
    refine rel_record?_object (by simp) fun other hother => ?_
    by_cases hname : rule.name = other.name
    · obtain rfl := eq_of_name_eq hrule hother hname
      have hzero : countField rule.name fields = 0 := countField_eq_zero.mpr hmissing
      rw [countField_cons_of_eq rfl, hzero, field?_eq_none hmissing, field?_cons_of_eq rfl]
      have hvalue := ((isKeepable_object.mp hkeep).2 _ List.mem_cons_self).2
      exact ⟨by omega, fun _ => .default hdefault hvalue⟩
    · rw [countField_cons_of_ne (by simpa using hname), field?_cons_of_ne (by simpa using hname)]
      exact ⟨.rfl, fun _ => .same⟩
  | @field _ before name value changed after hinside =>
    refine rel_record?_object (by simp) fun rule hrule => ?_
    have hcount (other : Json) : countField rule.name (before ++ (name, other) :: after) =
        countField rule.name before + countField rule.name ((name, value) :: after) := by
      simp [countField, List.countP_cons]
    rw [hcount, hcount]
    refine ⟨.rfl, fun hone => ?_⟩
    by_cases hname : name = some rule.name
    · subst hname
      rw [countField_cons_of_eq rfl] at hone
      have hmissing : ∀ field ∈ before, field.1 ≠ some rule.name :=
        countField_eq_zero.mp (by omega)
      rw [field?_append_of_ne hmissing, field?_append_of_ne hmissing, field?_cons_of_eq rfl,
        field?_cons_of_eq rfl]
      rw [inField_of_mem hrule] at hinside
      exact .inside hinside ((isKeepable_object.mp hkeep).2 (some rule.name, changed) (by simp)).2
    · have hskip (other : Json) : field? rule.name (.object (before ++ (name, other) :: after)) =
          field? rule.name (.object (before ++ after)) := by
        rw [field?, field?, List.find?_append, List.find?_append,
          List.find?_cons_of_neg (by simpa using hname)]
      rw [hskip, hskip]
      exact .same
  | @item _ before value changed after hinside =>
    have hlength : (before ++ changed :: after).length = (before ++ value :: after).length := by
      simp
    rw [record?, record?, hlength]
    split
    case isTrue hle =>
      refine .some ?_
      simp only [List.map_append, List.map_cons, List.append_assoc, List.cons_append]
      refine .of_item ?_ fun rule hrule => ?_
      · simp only [List.length_append, List.length_cons, List.length_map, List.length_replicate]
          at hle ⊢
        omega
      · rw [List.length_map, Option.mem_def] at hrule
        rw [inItem, hrule] at hinside
        exact .inside hinside ((isKeepable_array.mp hkeep).2 changed (by simp))
    case isFalse => exact .none

/-- What is made of the fields of a record is the same before and after a step if it is the same for
any fields that a step may leave. -/
theorem Step.bind_record? {α : Type} {kind : κ} {f : List (Option Json) → Option α}
    (h : schema.Step (.one kind) value changed) (hkeep : changed.isKeepable (levels + 1))
    (hf : ∀ values changes, Entries schema levels (schema.fields kind) values changes →
      f values = f changes) :
    (record? ((schema.fields kind).map FieldRule.name) value).bind f =
      (record? ((schema.fields kind).map FieldRule.name) changed).bind f := by
  have hrecord := h.rel_record? hkeep
  generalize record? ((schema.fields kind).map FieldRule.name) value = found at hrecord ⊢
  generalize record? ((schema.fields kind).map FieldRule.name) changed = found' at hrecord ⊢
  cases hrecord with
  | none => rfl
  | some hentries => exact hf _ _ hentries

/-! ## Variants -/

/-- A step leads from an object to an object or changes an item of an array. -/
theorem Step.object_or_item (h : schema.Step part value changed) :
    (∃ fields others, value = .object fields ∧ changed = .object others) ∨
      ∃ before item other after, value = .array (before ++ item :: after) ∧
        changed = .array (before ++ other :: after) ∧
          schema.Step (schema.inItem part before.length) item other := by
  cases h with
  | item before after h => exact .inr ⟨before, _, _, after, rfl, rfl, h⟩
  | _ => exact .inl ⟨_, _, rfl, rfl⟩

/-- A variant is taken alike before and after a step, up to what the step did to its content. -/
theorem Step.rel_tagged? {kind : κ} {tag content : String} {inner : Part κ}
    (h : schema.Step (.one kind) value changed) (hkeep : changed.isKeepable (levels + 1))
    (hfields : schema.fields kind = [⟨tag, .plain, none⟩, ⟨content, inner, none⟩]) :
    Option.Rel (fun found other => found.1 = other.1 ∧ (found.2 = other.2 ∨
        schema.Step inner found.2 other.2 ∧ other.2.isKeepable levels))
      (tagged? tag content levels value) (tagged? tag content levels changed) := by
  rcases h.object_or_item with
    ⟨fields, others, rfl, rfl⟩ | ⟨before, item, other, after, rfl, rfl, hitem⟩
  · have hrecord := h.rel_record? hkeep
    rw [hfields, List.map_cons, List.map_singleton] at hrecord
    rw [tagged?_object hkeep, tagged?_object (h.isKeepable hkeep)]
    generalize record? [tag, content] (.object fields) = found at hrecord ⊢
    generalize record? [tag, content] (.object others) = found' at hrecord ⊢
    cases hrecord with
    | none => exact .none
    | some hentries =>
      obtain _ | ⟨htag, _ | ⟨hcontent, _ | _⟩⟩ := hentries
      rcases htag.none_or_some rfl with ⟨rfl, rfl⟩ | ⟨tagValue, tagChanged, rfl, rfl, htag⟩
      · exact .none
      rcases hcontent.none_or_some rfl with ⟨rfl, rfl⟩ | ⟨_, _, rfl, rfl, hsame⟩
      · exact .none
      have hname : variant? levels tagValue = variant? levels tagChanged := by
        rcases htag with rfl | ⟨hstep, -⟩
        · rfl
        · exact hstep.variant?_eq levels
      simp only [Option.bind_some, hname]
      cases variant? levels tagChanged with
      | none => exact .none
      | some name => exact .some ⟨rfl, hsame⟩
  · by_cases hshape : ∃ name, before = [.string (some name)] ∧ after = []
    · obtain ⟨name, rfl, rfl⟩ := hshape
      rw [inItem, hfields] at hitem
      exact .some ⟨rfl, .inr ⟨hitem, (isKeepable_array.mp hkeep).2 other (by simp)⟩⟩
    · have hatom (name : String) := hitem.ne_of_atom (.string (some name)) (by simp) (by simp)
      rw [tagged?_eq_none (fun name => (hatom name).1) hshape,
        tagged?_eq_none (fun name => (hatom name).2) hshape]
      exact .none

/-- What is made of a variant is the same before and after a step if it is the same for any content
that a step may leave. -/
theorem Step.bind_tagged? {α : Type} {kind : κ} {tag content : String} {inner : Part κ}
    {f : String × Json → Option α} (h : schema.Step (.one kind) value changed)
    (hkeep : changed.isKeepable (levels + 1))
    (hfields : schema.fields kind = [⟨tag, .plain, none⟩, ⟨content, inner, none⟩])
    (hf : ∀ name found other, schema.Step inner found other → other.isKeepable levels →
      f (name, found) = f (name, other)) :
    (tagged? tag content levels value).bind f = (tagged? tag content levels changed).bind f := by
  have hvariant := h.rel_tagged? hkeep hfields
  generalize tagged? tag content levels value = found at hvariant ⊢
  generalize tagged? tag content levels changed = found' at hvariant ⊢
  cases hvariant with
  | none => rfl
  | @some variant other hsame =>
    obtain ⟨name, content⟩ := variant
    obtain ⟨_, other⟩ := other
    obtain ⟨rfl, rfl | ⟨hstep, hother⟩⟩ := hsame
    · rfl
    · exact hf name content other hstep hother

/-! ## Any number of steps -/

/-- What every step keeps is the same for values that differ by any number of steps. -/
theorem Varies.eq_of_step {α : Type} {read : Json → α} (h : schema.Varies part value changed)
    (hstep : ∀ value changed, schema.Step part value changed → changed.isKeepable maxLevels →
      read value = read changed) : read value = read changed := by
  induction h with
  | rel value changed h => exact hstep value changed h.1 h.2
  | refl => rfl
  | symm _ _ _ ih => exact ih.symm
  | trans _ _ _ _ _ ih ih' => exact ih.trans ih'

end Schema

end TemplateInspector.Json
