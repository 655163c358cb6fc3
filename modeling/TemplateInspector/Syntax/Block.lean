/-!
# Syntax trees of templates

A block is a node of the tree that an engine reports for a template: its kind, the bytes of the
template that it covers, its content and the blocks inside it. `Block.preorder` lists the nodes of
a tree with their depths, each before the nodes inside it.
-/

namespace TemplateInspector

/-- A range of bytes of a template. -/
structure Span where
  /-- The offset of the first byte. -/
  start : Nat := 0
  /-- The number of bytes. -/
  len : Nat := 0
  deriving DecidableEq, Repr

/-- The offset after the last byte of a span. -/
def Span.stop (span : Span) : Nat :=
  span.start + span.len

/-- What a block of a template is. -/
inductive BlockKind
  /-- The whole template. -/
  | document
  /-- Text outside of tags. -/
  | markup
  /-- A tag whose value is written. -/
  | expression
  /-- A tag that acts. -/
  | statement
  /-- A tag without effect. -/
  | comment
  /-- A statement that encloses blocks up to its end tag. -/
  | region
  deriving DecidableEq, Repr

/-- A node of a syntax tree. -/
structure Block where
  /-- What the node is. -/
  kind : BlockKind
  /-- The part of the template that the node covers. -/
  span : Span := {}
  /-- The text of the node. -/
  content : String := ""
  /-- The nodes inside it, in order. -/
  children : List Block := []
  deriving Repr

namespace Block

mutual

/-- Equality of trees is decidable: kind, span and content are compared first, then the nodes
inside. -/
def decideEq : (a b : Block) → Decidable (a = b)
  | ⟨kindA, spanA, contentA, childrenA⟩, ⟨kindB, spanB, contentB, childrenB⟩ =>
    if head : kindA = kindB ∧ spanA = spanB ∧ contentA = contentB then
      match decideEqAll childrenA childrenB with
      | .isTrue children => .isTrue (by
          obtain ⟨rfl, rfl, rfl⟩ := head
          rw [children])
      | .isFalse children => .isFalse fun h => children (by injection h)
    else .isFalse fun h => head (by injection h with h₁ h₂ h₃; exact ⟨h₁, h₂, h₃⟩)

/-- Equality of lists of trees is decidable. -/
def decideEqAll : (as bs : List Block) → Decidable (as = bs)
  | [], [] => .isTrue rfl
  | [], _ :: _ => .isFalse (by simp)
  | _ :: _, [] => .isFalse (by simp)
  | a :: as, b :: bs =>
    match decideEq a b, decideEqAll as bs with
    | .isTrue head, .isTrue tail => .isTrue (by rw [head, tail])
    | .isFalse head, _ => .isFalse fun h => head (by injection h)
    | _, .isFalse tail => .isFalse fun h => tail (by injection h)

end

instance : DecidableEq Block := decideEq

mutual

/-- The number of nodes of a tree. -/
def nodeCount : Block → Nat
  | ⟨_, _, _, children⟩ => 1 + nodeCountAll children

/-- The number of nodes of some trees. -/
def nodeCountAll : List Block → Nat
  | [] => 0
  | block :: others => nodeCount block + nodeCountAll others

end

mutual

/-- The nodes of a tree with their depths, each before the nodes inside it. -/
def preorder (depth : Nat) : Block → List (Nat × Block)
  | ⟨kind, span, content, children⟩ =>
    (depth, ⟨kind, span, content, children⟩) :: preorderAll (depth + 1) children

/-- The nodes of some trees of one depth, in order. -/
def preorderAll (depth : Nat) : List Block → List (Nat × Block)
  | [] => []
  | block :: others => preorder depth block ++ preorderAll depth others

end

end Block

end TemplateInspector
