import TemplateInspector.Json.Value
import TemplateInspector.Number.Decimal

/-!
# The shape of JSON values

How values are taken for texts, numbers, lists and records. A record is an object, in which fields
may come in any order and unknown ones are passed over, or an array of its fields in order. A field
that is given twice is refused. Every list and record uses up one of the levels that are allowed;
values that are passed over use up none.
-/

namespace TemplateInspector.Json

/-- The greatest number of nested lists and records. -/
def maxLevels : Nat := 127

/-- A natural number below two to the power of 64. -/
def word? : Json → Option Nat
  | .number (.integer false n) => if n < Nat.pow 2 64 then some n else none
  | _ => none

/-- `null`, or a value of the given shape. -/
def nullable (decode : Json → Option α) : Json → Option (Option α)
  | .null => some none
  | value => (decode value).map some

/-- The number of fields of a name. -/
def countField (name : String) (fields : List (Option String × Json)) : Nat :=
  fields.countP fun field => field.1 = some name

/-- The fields of a record by the names in order, each if it is given. -/
def record? (names : List String) : Json → Option (List (Option Json))
  | .object fields =>
    if fields.all (·.1.isSome) && names.all (fun name => countField name fields ≤ 1) then
      some (names.map fun name => (fields.find? fun field => field.1 = some name).map (·.2))
    else none
  | .array items =>
    if items.length ≤ names.length then
      some (items.map some ++ List.replicate (names.length - items.length) none)
    else none
  | _ => none

/-- A field that has to be given. -/
def required (decode : Json → Option α) : Option Json → Option α
  | some value => decode value
  | none => none

/-- A field with a value for when it is not given. -/
def defaulted (decode : Json → Option α) (default : α) : Option Json → Option α
  | some value => decode value
  | none => some default

/-- The items of a list, if a level is left; the items have one level less. -/
def items? (decode : Nat → Json → Option α) : Nat → Json → Option (List α)
  | level + 1, .array items => items.mapM (decode level)
  | _, _ => none

/-- The name of a variant without content: a string, or an object of one field that is `null`. -/
def variant? : Nat → Json → Option String
  | _, .string name => name
  | _ + 1, .object [(name, .null)] => name
  | _, _ => none

/-- Whether a number can be held, as a word or as a floating-point number. -/
def isFinite : JsonNumber → Bool
  | .integer _ magnitude =>
    let (significand, exponent) := wordDecimal (Nat.toDigits 10 magnitude) [] 0
    isFiniteProduct significand exponent
  | .decimal _ whole places exponent =>
    let (significand, exponent) := wordDecimal whole places exponent
    isFiniteProduct significand exponent

mutual

/-- Whether a value can be kept for later: its strings are well formed, its numbers can be held and
its levels are allowed. -/
def isKeepable (levels : Nat) : Json → Bool
  | .null | .bool _ => true
  | .number n => isFinite n
  | .string text => text.isSome
  | .array items => 0 < levels && areKeepable (levels - 1) items
  | .object fields => 0 < levels && areKeepableFields (levels - 1) fields

/-- Whether all values of a list can be kept for later. -/
def areKeepable (levels : Nat) : List Json → Bool
  | [] => true
  | item :: items => isKeepable levels item && areKeepable levels items

/-- Whether all fields can be kept for later. -/
def areKeepableFields (levels : Nat) : List (Option String × Json) → Bool
  | [] => true
  | (name, value) :: fields =>
    name.isSome && isKeepable levels value && areKeepableFields levels fields

end

/-- The tag and the content of a variant: a record of the two fields. Content that comes before its
tag has to be kept until the tag is known. In an array the tag is a plain string. -/
def tagged? (tag content : String) (levels : Nat) (value : Json) : Option (String × Json) :=
  match value with
  | .object fields => do
    let [some tagValue, some contentValue] ← record? [tag, content] value | none
    let names := fields.filterMap (·.1)
    if names.idxOf content < names.idxOf tag && !isKeepable levels contentValue then none
    else
      let name ← variant? levels tagValue
      some (name, contentValue)
  | .array [.string (some name), contentValue] => some (name, contentValue)
  | _ => none

end TemplateInspector.Json
