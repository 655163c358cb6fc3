/-!
# Division into fields

What the parts of a word stand for is put together to fields. Only the values of parts that are not
quoted are divided; blanks that divide count once however many there are.
-/

namespace TemplateInspector.Shell

/-- What a part of a word stands for. -/
inductive Fragment
  /-- Text that is not divided. -/
  | whole (quoted : Bool) (text : List Char)
  /-- Text that is divided. -/
  | divided (text : List Char)
  /-- The end of a field. -/
  | fieldEnd
  deriving DecidableEq, Repr

namespace Fragment

/-- The text of a fragment. -/
def text : Fragment → List Char
  | .whole _ text | .divided text => text
  | .fieldEnd => [' ']

/-- The characters of a fragment, and whether they are quoted. -/
def marked : Fragment → List (Char × Bool)
  | .whole quoted text => text.map fun c => (c, quoted)
  | .divided text => text.map fun c => (c, false)
  | .fieldEnd => [(' ', true)]

end Fragment

/-- Whether a character is a blank for the division into fields. -/
def isFieldBlank (c : Char) : Bool :=
  c = ' ' || c = '\t' || c = '\n'

/-- A field, of whose characters it is known whether they are quoted. -/
abbrev Field := List (Char × Bool)

/-- Fields that are being put together. -/
structure FieldDraft where
  /-- The finished fields, last first. -/
  finished : List Field := []
  /-- The start of the current field, last character first, if there is one. -/
  current : Option Field := none

namespace FieldDraft

/-- Ends the current field. -/
def close (draft : FieldDraft) : FieldDraft :=
  match draft.current with
  | some field => ⟨field.reverse :: draft.finished, none⟩
  | none => draft

/-- Adds text to the current field, which is begun if there is none. -/
def add (draft : FieldDraft) (text : Field) : FieldDraft :=
  { draft with current := some (text.reverse ++ draft.current.getD []) }

/-- Adds a character that is divided at some characters. -/
def addDivided (separators : List Char) (draft : FieldDraft) (c : Char) : FieldDraft :=
  if !separators.contains c then draft.add [(c, false)]
  else if isFieldBlank c then draft.close
  else (draft.add []).close

/-- Adds a fragment. -/
def addFragment (separators : List Char) (draft : FieldDraft) : Fragment → FieldDraft
  | .whole quoted text => draft.add (text.map (·, quoted))
  | .divided text => text.foldl (addDivided separators) draft
  | .fieldEnd => draft.close

end FieldDraft

/-- The fields of fragments. -/
def fieldsOf (separators : List Char) (fragments : List Fragment) : List Field :=
  ((fragments.foldl (FieldDraft.addFragment separators) {}).close).finished.reverse

end TemplateInspector.Shell
