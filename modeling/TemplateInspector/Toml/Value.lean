import TemplateInspector.Number.Decimal

/-!
# TOML values

The values of a configuration file, and the shapes in which they are taken. A record is a table, in
which unknown keys are passed over, or an array of its fields in order.
-/

namespace TemplateInspector

/-- A TOML value. Of dates and times no more is kept than that they are there. -/
inductive Toml where
  | string (text : String)
  | integer (value : Int)
  /-- A floating-point number, and whether it is in range. -/
  | float (inRange : Bool)
  | bool (value : Bool)
  | datetime
  | array (items : List Toml)
  | table (fields : List (String × Toml))
  deriving Repr

/-- Why a document could not be taken. -/
inductive TomlError
  /-- The document cannot be read from a line on. -/
  | malformed (line : Nat)
  /-- The document as a whole has another shape. -/
  | misshapen
  deriving DecidableEq, Repr

/-- The text that reports why a document could not be taken. A document of another shape is reported
at its beginning. -/
def TomlError.message : TomlError → String
  | .malformed line => "TOML parse error at line " ++ toString line ++ ": no statement can be read"
  | .misshapen => "TOML parse error at line 1: the document has another shape"

namespace Toml

mutual

/-- Whether a value can be passed over: its numbers are in the range of the widest types. -/
def isSkippable : Toml → Bool
  | .integer value => -(Nat.pow 2 127 : Int) ≤ value && value < Nat.pow 2 128
  | .float inRange => inRange
  | .array items => areSkippable items
  | .table fields => areSkippableFields fields
  | .string _ | .bool _ | .datetime => true

/-- Whether all values of a list can be passed over. -/
def areSkippable : List Toml → Bool
  | [] => true
  | item :: items => isSkippable item && areSkippable items

/-- Whether all values of a table can be passed over. -/
def areSkippableFields : List (String × Toml) → Bool
  | [] => true
  | (_, value) :: fields => isSkippable value && areSkippableFields fields

end

/-- The text of a string. -/
def text? : Toml → Option String
  | .string text => some text
  | _ => none

/-- The truth value of a Boolean. -/
def bool? : Toml → Option Bool
  | .bool value => some value
  | _ => none

/-- A natural number below two to the power of 64. -/
def word? : Toml → Option Nat
  | .integer (.ofNat n) => if n < Nat.pow 2 64 then some n else none
  | _ => none

/-- The items of an array. -/
def items? (decode : Toml → Option α) : Toml → Option (List α)
  | .array items => items.mapM decode
  | _ => none

/-- The fields of a record by the names in order, each if it is given. -/
def record? (names : List String) : Toml → Option (List (Option Toml))
  | .table fields =>
    if fields.all fun (name, value) => names.contains name || value.isSkippable then
      some (names.map fun name => fields.lookup name)
    else none
  | .array items =>
    some ((items.map some ++ List.replicate names.length none).take names.length)
  | _ => none

/-- A field that has to be given. -/
def required (decode : Toml → Option α) : Option Toml → Option α
  | some value => decode value
  | none => none

/-- A field with a value for when it is not given. -/
def defaulted (decode : Toml → Option α) (default : α) : Option Toml → Option α
  | some value => decode value
  | none => some default

/-- A field that is given or not. -/
def optional (decode : Toml → Option α) : Option Toml → Option (Option α)
  | some value => (decode value).map some
  | none => some none

end Toml

end TemplateInspector
