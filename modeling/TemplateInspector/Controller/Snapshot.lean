import TemplateInspector.Engine.Codec

/-!
# Snapshots of a controller

Everything that is shown of a controller at one point in time. Two snapshots that differ in nothing
but the names of languages count as the same.
-/

namespace TemplateInspector

/-- What is shown of a controller. -/
structure Snapshot where
  /-- The state, in words. -/
  state : String
  /-- The status line. -/
  status : String
  /-- The template. -/
  text : String
  /-- The identifier of the selected engine. -/
  engine : Option String
  /-- The selected language. -/
  language : Option Language
  /-- The languages of the selected engine. -/
  languages : List Language
  /-- Whether the output maps back to the template. -/
  designTime : Bool
  /-- The generated source. -/
  code : String
  /-- The tree of the template. -/
  tree : Option Block
  /-- The number of completed generations. -/
  generations : Nat
  deriving DecidableEq, Repr

namespace Snapshot

/-- Whether two snapshots differ at most in the names of languages. -/
def same (a b : Snapshot) : Bool :=
  a.state == b.state && a.status == b.status && a.text == b.text && a.engine == b.engine &&
    Language.sameOption a.language b.language && Language.sameList a.languages b.languages &&
    a.designTime == b.designTime && a.code == b.code && decide (a.tree = b.tree) &&
    a.generations == b.generations

/-- The JSON value of a snapshot. -/
def encode (snapshot : Snapshot) : Json :=
  .ofFields [
    ("state", .ofText snapshot.state),
    ("status", .ofText snapshot.status),
    ("template_text", .ofText snapshot.text),
    ("selected_engine", .ofOption .ofText snapshot.engine),
    ("selected_language", .ofOption Language.encode snapshot.language),
    ("languages", .ofList Language.encode snapshot.languages),
    ("design_time_mode", .bool snapshot.designTime),
    ("generated_code", .ofText snapshot.code),
    ("generated_tree", .ofOption Block.encode snapshot.tree),
    ("generation_count", .ofNat snapshot.generations)]

end Snapshot

end TemplateInspector
