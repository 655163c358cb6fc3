import TemplateInspector.Toml.Value

/-!
# The structure of TOML documents

Statements of a document define keys in tables that other statements may have opened. What may be
extended depends on how it came to be: a table that a header only passed through may still be opened
by a header of its own, one that dotted keys made may be extended by dotted keys, and a value,
inline tables and arrays included, is closed.
-/

namespace TemplateInspector.Toml

/-- How a table came to be. -/
inductive TableOrigin
  /-- A header opened it. -/
  | header
  /-- A header or a key of it passed through. -/
  | passage
  /-- Dotted keys made it. -/
  | dotted
  deriving DecidableEq, Repr

/-- What a key of an open table stands for. -/
inductive Entry where
  /-- A closed value. -/
  | value (value : Toml)
  /-- A table. -/
  | table (origin : TableOrigin) (fields : List (String × Entry))
  /-- Tables under one name, the newest first; only that one is open. -/
  | tables (newest : List (String × Entry)) (others : List (List (String × Entry)))

/-- The entries of a table in the order of their keys' first use. -/
abbrev Fields := List (String × Entry)

namespace Fields

/-- The entry of a key. -/
def get? (key : String) (fields : Fields) : Option Entry :=
  fields.lookup key

/-- Replaces the entry of a key, or adds one at the end. -/
def put (key : String) (entry : Entry) : Fields → Fields
  | [] => [(key, entry)]
  | (name, old) :: others =>
    if name = key then (key, entry) :: others else (name, old) :: put key entry others

/-- Changes the table that a path leads to. Tables that are missing are made; `dotted` tells whether
the path belongs to a dotted key or to a header. The change learns how the table came to be. -/
def change (dotted : Bool) (change_ : TableOrigin → Fields → Option Fields)
    (origin : TableOrigin) : List String → Fields → Option Fields
  | [], fields => change_ origin fields
  | key :: path, fields =>
    match fields.get? key with
    | none =>
      let origin : TableOrigin := if dotted then .dotted else .passage
      (change dotted change_ origin path []).map fun inner =>
        fields.put key (.table origin inner)
    | some (.table origin inner) =>
      if dotted && origin = .header then none
      else (change dotted change_ origin path inner).map fun inner =>
        fields.put key (.table origin inner)
    | some (.tables newest others) =>
      (change dotted change_ .header path newest).map fun newest =>
        fields.put key (.tables newest others)
    | some (.value _) => none

/-- Defines a key in a table. A dotted key ends in a table that dotted keys made. -/
def define (path : List String) (key : String) (value : Toml) (fields : Fields) : Option Fields :=
  change true (fun origin inner =>
    if (!path.isEmpty && origin ≠ .dotted) || (inner.get? key).isSome then none
    else some (inner ++ [(key, .value value)])) .header path fields

/-- Opens the table of a header. -/
def openTable (path : List String) (key : String) (fields : Fields) : Option Fields :=
  change false (fun _ inner =>
    match inner.get? key with
    | none => some (inner ++ [(key, .table .header [])])
    | some (.table .passage own) => some (inner.put key (.table .header own))
    | some _ => none) .header path fields

/-- Opens a further table under the name of a header. -/
def openFurther (path : List String) (key : String) (fields : Fields) : Option Fields :=
  change false (fun _ inner =>
    match inner.get? key with
    | none => some (inner ++ [(key, .tables [] [])])
    | some (.tables newest others) => some (inner.put key (.tables [] (newest :: others)))
    | some _ => none) .header path fields

/-- Defines a key in the table that a header opened. -/
def defineAt (table path : List String) (key : String) (value : Toml) (fields : Fields) :
    Option Fields :=
  change false (fun _ inner => inner.define path key value) .header table fields

end Fields

mutual

/-- The value of an entry. -/
def Entry.close : Entry → Toml
  | .value value => value
  | .table _ fields => .table (closeFields fields)
  | .tables newest others => .array ((closeTables others).reverse ++ [.table (closeFields newest)])

/-- The fields of a finished table. -/
def closeFields : List (String × Entry) → List (String × Toml)
  | [] => []
  | (key, entry) :: others => (key, entry.close) :: closeFields others

/-- The values of finished tables. -/
def closeTables : List (List (String × Entry)) → List Toml
  | [] => []
  | fields :: others => .table (closeFields fields) :: closeTables others

end

end TemplateInspector.Toml
