import TemplateInspector.Syntax.Block

/-!
# Nodes of a tree and contiguous blocks

The nodes of a tree in preorder without their depths, and what it means that blocks lie next to
each other without gaps.
-/

namespace TemplateInspector

/-- The nodes of a tree, each before the nodes inside it. -/
def Block.nodes (block : Block) : List Block :=
  (block.preorder 0).map Prod.snd

/-- The nodes of some trees, in order. -/
def Block.nodesAll (blocks : List Block) : List Block :=
  (preorderAll 0 blocks).map Prod.snd

namespace Block

mutual

/-- The depth that a tree is listed at does not matter to which nodes it has. -/
theorem preorder_snd (depth depth' : Nat) :
    (block : Block) → (block.preorder depth).map Prod.snd = (block.preorder depth').map Prod.snd
  | ⟨kind, span, content, children⟩ => by
    simp only [preorder, List.map_cons, preorderAll_snd (depth + 1) (depth' + 1) children]

/-- The depth that trees are listed at does not matter to which nodes they have. -/
theorem preorderAll_snd (depth depth' : Nat) :
    (blocks : List Block) →
      (preorderAll depth blocks).map Prod.snd = (preorderAll depth' blocks).map Prod.snd
  | [] => rfl
  | block :: others => by
    simp only [preorderAll, List.map_append, preorder_snd depth depth' block,
      preorderAll_snd depth depth' others]

end

/-- The first node of a tree is the tree itself. -/
theorem nodes_eq (block : Block) : block.nodes = block :: nodesAll block.children := by
  obtain ⟨kind, span, content, children⟩ := block
  rw [nodes, preorder, List.map_cons, preorderAll_snd _ 0, nodesAll]

@[simp] theorem nodesAll_nil : nodesAll [] = [] := rfl

@[simp] theorem nodesAll_cons (block : Block) (others : List Block) :
    nodesAll (block :: others) = block.nodes ++ nodesAll others := by
  rw [nodesAll, preorderAll, List.map_append, nodes, nodesAll]

@[simp] theorem nodesAll_append (blocks others : List Block) :
    nodesAll (blocks ++ others) = nodesAll blocks ++ nodesAll others := by
  induction blocks with
  | nil => rfl
  | cons block blocks ih =>
    rw [List.cons_append, nodesAll_cons, nodesAll_cons, ih, List.append_assoc]

mutual

/-- The nodes of a node stand together among the nodes of the tree. -/
theorem nodes_within {node : Block} :
    (block : Block) → node ∈ block.nodes → node.nodes <:+: block.nodes
  | ⟨kind, span, content, children⟩, h => by
    rw [nodes_eq] at h
    rcases List.mem_cons.mp h with rfl | hchild
    · exact List.infix_rfl
    · rw [nodes_eq ⟨kind, span, content, children⟩]
      exact List.infix_cons (nodesAll_within children hchild)

/-- The nodes of a node stand together among the nodes of some trees. -/
theorem nodesAll_within {node : Block} :
    (blocks : List Block) → node ∈ nodesAll blocks → node.nodes <:+: nodesAll blocks
  | [], h => by simp at h
  | block :: others, h => by
    rw [nodesAll_cons] at h ⊢
    rcases List.mem_append.mp h with hblock | hothers
    · exact (nodes_within block hblock).trans (List.prefix_append _ _).isInfix
    · exact (nodesAll_within others hothers).trans (List.suffix_append _ _).isInfix

end

end Block

/-- Blocks lie next to each other from one byte offset to another: the first begins at the one, each
begins where the one before it ends, and the last ends at the other. -/
def Contiguous (start : Nat) : List Block → Nat → Prop
  | [], stop => start = stop
  | block :: others, stop => block.span.start = start ∧ Contiguous block.span.stop others stop

/-- Contiguous blocks do not run backwards. -/
theorem Contiguous.le {start stop : Nat} {blocks : List Block} (h : Contiguous start blocks stop) :
    start ≤ stop := by
  induction blocks generalizing start with
  | nil => exact Nat.le_of_eq h
  | cons block others ih =>
    obtain ⟨rfl, hothers⟩ := h
    exact Nat.le_trans (Nat.le_add_right _ _) (ih hothers)

/-- A block can be put after contiguous blocks if it begins where they end. -/
theorem Contiguous.concat {start : Nat} {blocks : List Block} {block : Block}
    (h : Contiguous start blocks block.span.start) :
    Contiguous start (blocks ++ [block]) block.span.stop := by
  induction blocks generalizing start with
  | nil => exact ⟨h.symm, rfl⟩
  | cons first others ih =>
    obtain ⟨hfirst, hothers⟩ := h
    exact ⟨hfirst, ih hothers⟩

end TemplateInspector
