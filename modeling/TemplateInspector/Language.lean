/-!
# Output languages

An engine writes its output in one of several languages. A language has an identifier and a name to
show; two descriptions with one identifier describe the same language, whatever they call it.
-/

namespace TemplateInspector

/-- An output language as an engine describes it. -/
structure Language where
  /-- The identifier, which alone decides which language is meant. -/
  id : String
  /-- The name to show. -/
  name : String
  deriving DecidableEq, Repr

namespace Language

/-- Whether two descriptions describe the same language. -/
def same (a b : Language) : Bool :=
  a.id == b.id

/-- Whether two optional descriptions describe the same language, or both none. -/
def sameOption : Option Language → Option Language → Bool
  | none, none => true
  | some a, some b => a.same b
  | _, _ => false

/-- Whether two lists describe the same languages in the same order. -/
def sameList : List Language → List Language → Bool
  | [], [] => true
  | a :: as, b :: bs => a.same b && sameList as bs
  | _, _ => false

/-- The first description of the language with a given identifier. -/
def find? (id : String) (languages : List Language) : Option Language :=
  languages.find? fun language => language.id == id

/-- The text that shows a language: its name with the identifier in parentheses. -/
def display (language : Language) : String :=
  language.name ++ " (" ++ language.id ++ ")"

theorem same_iff {a b : Language} : a.same b = true ↔ a.id = b.id := by
  simp [same]

end Language

end TemplateInspector
