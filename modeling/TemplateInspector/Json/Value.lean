/-!
# JSON values

Values keep what a reader may want to know: the order and repetition of fields, whether a number is
written as an integer, and whether a string is well formed. A string whose escapes name an unpaired
surrogate has no text; it is kept as `none`.
-/

namespace TemplateInspector

/-- A number as it is written. -/
inductive JsonNumber
  /-- A number without fraction and exponent. -/
  | integer (negative : Bool) (magnitude : Nat)
  /-- A number with a fraction or an exponent, by the digits before and after the point. -/
  | decimal (negative : Bool) (whole places : List Char) (exponent : Int)
  deriving DecidableEq, Repr

/-- A JSON value. -/
inductive Json where
  | null
  | bool (value : Bool)
  | number (value : JsonNumber)
  | string (text : Option String)
  | array (items : List Json)
  | object (fields : List (Option String × Json))
  deriving Repr

namespace Json

/-- The value of a text. -/
def ofText (text : String) : Json := .string (some text)

/-- The value of a natural number. -/
def ofNat (n : Nat) : Json := .number (.integer false n)

/-- The value of an optional text: `null` for none. -/
def ofOption (encode : α → Json) : Option α → Json
  | none => .null
  | some a => encode a

/-- The value of a list. -/
def ofList (encode : α → Json) (items : List α) : Json := .array (items.map encode)

/-- The object with the given fields, in order. -/
def ofFields (fields : List (String × Json)) : Json :=
  .object (fields.map fun (name, value) => (some name, value))

/-- The value of the first field of a name in an object. -/
def field? (name : String) : Json → Option Json
  | .object fields => (fields.find? fun field => field.1 = some name).map (·.2)
  | _ => none

/-- The text of a well-formed string. -/
def text? : Json → Option String
  | .string text => text
  | _ => none

/-- The truth value of a Boolean. -/
def bool? : Json → Option Bool
  | .bool value => some value
  | _ => none

/-- The value of a number that is written as a natural number. -/
def nat? : Json → Option Nat
  | .number (.integer false n) => some n
  | _ => none

/-- The items of an array. -/
def array? : Json → Option (List Json)
  | .array items => some items
  | _ => none

end Json

end TemplateInspector
