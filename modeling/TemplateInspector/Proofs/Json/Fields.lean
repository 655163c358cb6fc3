import Mathlib.Data.Option.Basic
import TemplateInspector.Json.Decode

/-!
# Fields of objects

What can be kept of an object, how its fields are counted and found whatever their order, and how
the name and the content of a variant are taken from an object or an array.
-/

namespace TemplateInspector.Json

variable {levels : Nat} {name tag content : String} {items : List Json}
  {field : Option String × Json} {fields : List (Option String × Json)}

/-! ## Values that can be kept -/

/-- An array can be kept if its items can, one level below. -/
theorem isKeepable_array :
    isKeepable levels (.array items) ↔
      0 < levels ∧ ∀ item ∈ items, isKeepable (levels - 1) item := by
  have hitems (level : Nat) : areKeepable level items ↔ ∀ item ∈ items, isKeepable level item := by
    induction items with
    | nil => simp [areKeepable]
    | cons item items ih => simp [areKeepable, ih]
  rw [isKeepable, Bool.and_eq_true, decide_eq_true_eq, hitems]

/-- An object can be kept if its names are texts and its values can be kept, one level below. -/
theorem isKeepable_object :
    isKeepable levels (.object fields) ↔
      0 < levels ∧ ∀ field ∈ fields, field.1.isSome ∧ isKeepable (levels - 1) field.2 := by
  have hfields (level : Nat) : areKeepableFields level fields ↔
      ∀ field ∈ fields, field.1.isSome ∧ isKeepable level field.2 := by
    induction fields with
    | nil => simp [areKeepableFields]
    | cons field fields ih => simp [areKeepableFields, ih, and_assoc]
  rw [isKeepable, Bool.and_eq_true, decide_eq_true_eq, hfields]

/-! ## Fields by their names -/

/-- Something that is there once is found in any order. -/
theorem find?_eq_of_perm {α : Type} {p : α → Bool} {xs ys : List α} (h : xs.Perm ys)
    (hone : xs.countP p ≤ 1) : xs.find? p = ys.find? p := by
  have hperm := h.filter p
  rw [List.countP_eq_length_filter] at hone
  rw [← List.head?_filter, ← List.head?_filter]
  rcases hxs : xs.filter p with _ | ⟨x, _ | ⟨y, rest⟩⟩
  · rw [hxs] at hperm
    rw [hperm.nil_eq]
  · rw [hxs] at hperm
    rw [List.singleton_perm.mp hperm]
  · rw [hxs] at hone
    simp at hone

/-- Only fields of a name are counted. -/
theorem countField_cons_of_ne (h : field.1 ≠ some name) :
    countField name (field :: fields) = countField name fields :=
  List.countP_cons_of_neg (by simpa using h)

theorem countField_cons_of_eq (h : field.1 = some name) :
    countField name (field :: fields) = countField name fields + 1 :=
  List.countP_cons_of_pos (by simpa using h)

theorem countField_eq_zero :
    countField name fields = 0 ↔ ∀ field ∈ fields, field.1 ≠ some name := by
  simp [countField, List.countP_eq_zero]

/-- Only fields of a name are found. -/
theorem field?_eq_none (h : ∀ field ∈ fields, field.1 ≠ some name) :
    field? name (.object fields) = none := by
  rw [field?, List.find?_eq_none.mpr (by simpa using h)]
  rfl

theorem field?_cons_of_eq (h : field.1 = some name) :
    field? name (.object (field :: fields)) = some field.2 := by
  rw [field?, List.find?_cons_of_pos (by simpa using h)]
  rfl

theorem field?_cons_of_ne (h : field.1 ≠ some name) :
    field? name (.object (field :: fields)) = field? name (.object fields) := by
  rw [field?, field?, List.find?_cons_of_neg (by simpa using h)]

theorem field?_append_of_ne {before : List (Option String × Json)}
    (h : ∀ field ∈ before, field.1 ≠ some name) :
    field? name (.object (before ++ fields)) = field? name (.object fields) := by
  rw [field?, field?, List.find?_append, List.find?_eq_none.mpr (by simpa using h), Option.none_or]

/-- What is taken for a field of a record is the value of a field. -/
theorem exists_of_mem_record? {names : List String} {values : List (Option Json)} {value : Json}
    (h : record? names (.object fields) = some values)
    (hvalue : some value ∈ values) : ∃ field ∈ fields, field.2 = value := by
  rw [record?] at h
  split at h
  case isTrue =>
    obtain rfl := Option.some.inj h
    obtain ⟨name, -, hname⟩ := List.mem_map.mp hvalue
    obtain ⟨field, hfound, rfl⟩ := Option.map_eq_some_iff.mp hname
    exact ⟨field, List.mem_of_find?_eq_some hfound, rfl⟩
  case isFalse => cases h

/-! ## Variants -/

/-- An object names a variant if its only field is `null`. -/
theorem variant?_object :
    variant? levels (.object fields) = some name ↔ 0 < levels ∧ fields = [(some name, .null)] := by
  cases levels with
  | zero => simp [variant?]
  | succ levels =>
    rw [variant?.eq_def]
    split <;> simp_all

/-- An array names a variant by a text that is followed by the content. -/
theorem tagged?_array {found : String × Json} :
    tagged? tag content levels (.array items) = some found ↔
      items = [.string (some found.1), found.2] := by
  rw [tagged?.eq_def]
  split
  all_goals simp_all [Prod.ext_iff, eq_comm]

/-- The tag and the content of a variant that can be kept are taken in any order. -/
theorem tagged?_object (h : isKeepable (levels + 1) (.object fields)) :
    tagged? tag content levels (.object fields) =
      (record? [tag, content] (.object fields)).bind fun values => match values with
        | [some tagValue, some contentValue] =>
          (variant? levels tagValue).map fun name => (name, contentValue)
        | _ => none := by
  rw [tagged?, Option.bind_eq_bind]
  refine Option.bind_congr fun values hvalues => ?_
  split
  case h_1 tagValue contentValue =>
    obtain ⟨field, hfield, rfl⟩ := exists_of_mem_record? hvalues
      (show some contentValue ∈ [some tagValue, some contentValue] by simp)
    have hcontent : isKeepable levels field.2 := ((isKeepable_object.mp h).2 field hfield).2
    simp only [hcontent, Bool.not_true, Bool.and_false, Bool.false_eq_true, if_false]
    exact Option.map_eq_bind.symm
  case h_2 => simp_all

/-- An array in which something other than a name stands at any place but that of the content names
no variant. -/
theorem tagged?_eq_none {before after : List Json} {item : Json}
    (hitem : ∀ name, item ≠ .string (some name))
    (hshape : ¬∃ name, before = [.string (some name)] ∧ after = []) :
    tagged? tag content levels (.array (before ++ item :: after)) = none := by
  refine Option.eq_none_iff_forall_ne_some.mpr fun found hfound => hshape ⟨found.1, ?_⟩
  have hitems := tagged?_array.mp hfound
  rcases before with _ | ⟨first, _ | ⟨second, before⟩⟩
  · exact absurd (List.cons.inj hitems).1 (hitem found.1)
  · simp_all
  · simp at hitems

end TemplateInspector.Json
