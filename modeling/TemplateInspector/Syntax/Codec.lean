import TemplateInspector.Json.Decode
import TemplateInspector.Syntax.Block

/-!
# Syntax trees as JSON

The encoder writes every field. The decoder takes fields in any order and fills in defaults for all
but the kind of a block and the two numbers of a span.
-/

namespace TemplateInspector

/-- The name of a kind of block. -/
def BlockKind.name : BlockKind → String
  | .document => "document"
  | .markup => "markup"
  | .expression => "expression"
  | .statement => "statement"
  | .comment => "comment"
  | .region => "section"

/-- The kind of block with a name. -/
def BlockKind.ofName? : String → Option BlockKind
  | "document" => some .document
  | "markup" => some .markup
  | "expression" => some .expression
  | "statement" => some .statement
  | "comment" => some .comment
  | "section" => some .region
  | _ => none

/-- The JSON value of a span. -/
def Span.encode (span : Span) : Json :=
  .ofFields [("start", .ofNat span.start), ("len", .ofNat span.len)]

/-- Reads a span. -/
def Span.decode : Nat → Json → Option Span
  | 0, _ => none
  | _ + 1, json => do
    let [start, len] ← Json.record? ["start", "len"] json | none
    let start ← Json.required Json.word? start
    let len ← Json.required Json.word? len
    return { start, len }

namespace Block

mutual

/-- The JSON value of a tree. -/
def encode : Block → Json
  | ⟨kind, span, content, children⟩ =>
    .ofFields [("kind", .ofText kind.name), ("span", span.encode), ("content", .ofText content),
      ("children", .array (encodeAll children))]

/-- The JSON values of some trees. -/
def encodeAll : List Block → List Json
  | [] => []
  | block :: others => encode block :: encodeAll others

end

/-- Reads a tree. A node and the list of the nodes inside it use up one level each. -/
def decode : Nat → Json → Option Block
  | 0, _ => none
  | levels + 1, json => do
    let [kind, span, content, children] ←
      Json.record? ["kind", "span", "content", "children"] json | none
    let kind ← Json.required (fun json => Json.variant? levels json >>= BlockKind.ofName?) kind
    let span ← Json.defaulted (Span.decode levels) {} span
    let content ← Json.defaulted Json.text? "" content
    let children ← match children with
      | none => some []
      | some (.array items) =>
        match levels with
        | 0 => none
        | levels + 1 => items.mapM (decode levels)
      | some _ => none
    return { kind, span, content, children }

end Block

end TemplateInspector
