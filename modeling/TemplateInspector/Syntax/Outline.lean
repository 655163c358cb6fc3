import TemplateInspector.Syntax.Block
import TemplateInspector.Text.Blank

/-!
# Outlines of syntax trees

An outline shows a tree with one line per node, indented by two spaces per level: the kind, the
bytes covered and the beginning of the content, in which control characters are shown as spaces so
that no content breaks a line.
-/

namespace TemplateInspector

/-- The name of a kind in an outline. -/
def BlockKind.title : BlockKind → String
  | .document => "Document"
  | .markup => "Markup"
  | .expression => "Expression"
  | .statement => "Statement"
  | .comment => "Comment"
  | .region => "Section"

namespace Block

/-- The greatest number of characters of its content that an outline shows of a node. -/
def previewLength : Nat := 40

/-- The part of a content that an outline shows. -/
def preview (content : String) : List Char :=
  Text.dropBlanksEnd <|
    (content.toList.take previewLength).map fun c => if Text.isControl c then ' ' else c

/-- The line of one node, without its line feed. -/
def outlineLine (depth : Nat) (block : Block) : List Char :=
  List.replicate (2 * depth) ' ' ++ block.kind.title.toList ++
    (" [" ++ toString block.span.start ++ ".." ++ toString block.span.stop ++ "] ").toList ++
    preview block.content

/-- The outline of a tree: the lines of its nodes in preorder. -/
def outline (block : Block) : String :=
  String.ofList <| (block.preorder 0).flatMap fun (depth, node) => outlineLine depth node ++ ['\n']

end Block

end TemplateInspector
