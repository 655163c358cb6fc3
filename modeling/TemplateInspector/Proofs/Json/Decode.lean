import Mathlib.Data.List.Nodup
import TemplateInspector.Json.Decode
import TemplateInspector.Proofs.Json.Reading

/-!
# Decoding what was encoded

What an encoder makes of a record, a list, an option or a variant is taken for it again: the fields
of a record by their names, the items of a list one by one. A format for values round-trips if its
decoder undoes its encoder; such values can then be told apart by their texts.
-/

namespace TemplateInspector

namespace Json

/-! ## Nesting -/

mutual

/-- The greatest number of arrays and objects inside one another. -/
def depth : Json → Nat
  | .null | .bool _ | .number _ | .string _ => 0
  | .array items => depthAll items + 1
  | .object fields => depthFields fields + 1

/-- The greatest depth of some values. -/
def depthAll : List Json → Nat
  | [] => 0
  | item :: items => max (depth item) (depthAll items)

/-- The greatest depth of the values of some fields. -/
def depthFields : List (Option String × Json) → Nat
  | [] => 0
  | (_, value) :: fields => max (depth value) (depthFields fields)

end

/-- An array lies one level above its items. -/
theorem depth_array (items : List Json) : (array items).depth = depthAll items + 1 := by
  rw [depth]

/-- No field of an object reaches the depth of the object. -/
theorem depth_lt_of_mem_fields {fields : List (String × Json)} (name : String) {value : Json}
    (h : (name, value) ∈ fields) : value.depth < (ofFields fields).depth := by
  rw [ofFields, depth, Nat.lt_succ_iff]
  induction fields with
  | nil => cases h
  | cons head fields ih =>
    rw [List.map_cons, depthFields]
    rcases List.mem_cons.mp h with rfl | hmem
    · exact Nat.le_max_left ..
    · exact (ih hmem).trans (Nat.le_max_right ..)

/-! ## Values whose numbers are integers -/

/-- A text has no numbers. -/
theorem isIntegral_ofText (text : String) : (ofText text).IsIntegral := .string _

/-- A natural number is an integer. -/
theorem isIntegral_ofNat (n : Nat) : (ofNat n).IsIntegral := .number _ _

/-- A record is integral if its fields are. -/
theorem isIntegral_ofFields {fields : List (String × Json)}
    (h : ∀ field ∈ fields, field.2.IsIntegral) : (ofFields fields).IsIntegral := by
  refine .object fun field hfield => ?_
  obtain ⟨given, hgiven, rfl⟩ := List.mem_map.mp hfield
  exact h given hgiven

variable {α : Type} {encode : α → Json}

/-- A list is integral if its items are. -/
theorem isIntegral_ofList {items : List α} (h : ∀ a ∈ items, (encode a).IsIntegral) :
    (ofList encode items).IsIntegral := by
  refine .array fun item hitem => ?_
  obtain ⟨a, ha, rfl⟩ := List.mem_map.mp hitem
  exact h a ha

/-- An optional value is integral if the value is. -/
theorem isIntegral_ofOption {a? : Option α} (h : ∀ a ∈ a?, (encode a).IsIntegral) :
    (ofOption encode a?).IsIntegral := by
  cases a? with
  | none => exact .null
  | some a => exact h a rfl

/-! ## Records, lists and options -/

/-- A number below two to the power of 64 is a word. -/
theorem word?_ofNat {n : Nat} (h : n < Nat.pow 2 64) : word? (ofNat n) = some n :=
  if_pos h

/-- The first field of a name is the only one. -/
theorem find?_fields {fields : List (String × Json)} (h : (fields.map Prod.fst).Nodup)
    {field : String × Json} (hmem : field ∈ fields) :
    ((fields.map fun (name, value) => (some name, value)).find? fun given =>
      given.1 = some field.1) = some (some field.1, field.2) := by
  induction fields with
  | nil => cases hmem
  | cons head fields ih =>
    obtain ⟨hhead, hfields⟩ := List.nodup_cons.mp h
    rcases List.mem_cons.mp hmem with rfl | hmem
    · exact List.find?_cons_of_pos (by simp)
    · have hne : head.1 ≠ field.1 := fun heq => hhead (heq ▸ List.mem_map_of_mem hmem)
      rw [List.map_cons, List.find?_cons_of_neg (by simpa using hne), ih hfields hmem]

/-- The fields of a record are found by their names, in order. -/
theorem record?_ofFields {fields : List (String × Json)} (h : (fields.map Prod.fst).Nodup) :
    record? (fields.map Prod.fst) (ofFields fields) =
      some (fields.map fun field => some field.2) := by
  have hnamed : (fields.map fun (name, value) => (some name, value)).all (·.1.isSome) := by
    simp
  have honce : (fields.map Prod.fst).all fun name =>
      countField name (fields.map fun (name, value) => (some name, value)) ≤ 1 := by
    rw [List.all_eq_true]
    intro name _
    have hcount : countField name (fields.map fun (name, value) => (some name, value)) =
        (fields.map Prod.fst).count name := by
      rw [countField, List.countP_map, List.count, List.countP_map]
      congr 1
      funext field
      simp [Bool.beq_eq_decide_eq]
    rw [hcount, decide_eq_true_eq]
    exact List.nodup_iff_count_le_one.mp h name
  rw [ofFields, record?, hnamed, honce]
  simp only [Bool.and_self, ite_true, List.map_map, Option.some.injEq]
  refine List.map_congr_left fun field hmem => ?_
  simp only [Function.comp_apply, find?_fields h hmem, Option.map_some]

/-- A list is decoded item by item. -/
theorem items?_ofList {decode : Nat → Json → Option α} {items : List α} {level : Nat}
    (h : ∀ a ∈ items, decode level (encode a) = some a) :
    items? decode (level + 1) (ofList encode items) = some items := by
  rw [ofList, items?]
  induction items with
  | nil => rfl
  | cons a items ih =>
    obtain ⟨ha, hitems⟩ := List.forall_mem_cons.mp h
    rw [List.map_cons, List.mapM_cons, ha, ih hitems]
    rfl

/-- An optional text is decoded. -/
theorem nullable_ofOption_ofText (text : Option String) :
    nullable text? (ofOption ofText text) = some text := by
  cases text <;> rfl

/-- The tag and the content of a variant are found. -/
theorem tagged?_ofFields {tag content : String} (h : tag ≠ content) (levels : Nat) (name : String)
    (value : Json) :
    tagged? tag content levels (ofFields [(tag, ofText name), (content, value)]) =
      some (name, value) := by
  have hrecord : record? [tag, content] (ofFields [(tag, ofText name), (content, value)]) =
      some [some (ofText name), some value] :=
    record?_ofFields (by simpa using h)
  have hname : variant? levels (ofText name) = some name := by
    cases levels <;> rfl
  simp only [ofFields, List.map_cons, List.map_nil] at hrecord ⊢
  simp [tagged?, hrecord, hname, List.idxOf_cons]

/-! ## Formats -/

/-- A format for the values that meet a condition: each is read back from the text that is written
for it, and from the bytes of this text, and no two are written alike. -/
structure RoundTrips {α : Type} (encode : α → Json) (decode : Json → Option α)
    (admitted : α → Prop) : Prop where
  /-- A value is read back from its text. -/
  text : ∀ a, admitted a → (parse (compact (encode a))).bind decode = some a
  /-- A value is read back from the bytes of its text. -/
  bytes : ∀ a, admitted a → (parseBytes (compact (encode a)).toUTF8).bind decode = some a
  /-- Different values have different texts. -/
  injective : ∀ a b, admitted a → admitted b → compact (encode a) = compact (encode b) → a = b

/-- A format round-trips if its decoder undoes its encoder and it needs no numbers but integers. -/
theorem roundTrips_of_decode_encode {decode : Json → Option α} {admitted : α → Prop}
    (hintegral : ∀ a, (encode a).IsIntegral)
    (hdecode : ∀ a, admitted a → decode (encode a) = some a) :
    RoundTrips encode decode admitted where
  text a ha := by rw [parse_compact (hintegral a), Option.bind_some, hdecode a ha]
  bytes a ha := by rw [parseBytes_compact (hintegral a), Option.bind_some, hdecode a ha]
  injective a b ha hb h := by
    have hvalues := congrArg parse h
    rw [parse_compact (hintegral a), parse_compact (hintegral b), Option.some.injEq] at hvalues
    have hread := hdecode a ha
    rw [hvalues, hdecode b hb] at hread
    exact (Option.some.inj hread).symm

end Json

end TemplateInspector
