import TemplateInspector.Template.Segmentation
import TemplateInspector.Proofs.Syntax.Nodes
import TemplateInspector.Proofs.Template.Lexing
import TemplateInspector.Proofs.Text.Slice

/-!
# What the tree of a template depicts

The blocks of the tree, each before those inside it, are made one by one of the pieces of the
template. The invariant is about the open regions: each of them is made of what was read since it
was opened, and the innermost ends where the reader stands.
-/

namespace TemplateInspector.Template

open Text

/-! ## What a block says of a piece -/

/-- Whether a piece is a tag that opens a region. -/
def Piece.Opens : Piece → Prop
  | .tag .statement inner _ => ∃ keyword, Role.ofContent (tagContent inner) = .opens keyword
  | _ => False

/-- What a block that is made of a piece alone is. -/
def Piece.kind : Piece → BlockKind
  | .markup _ => .markup
  | .tag .expression .. => .expression
  | .tag .statement .. => .statement
  | .tag .comment .. => .comment

/-- The text of a block that is made of a piece: all of it for markup, the text of the tag for a
tag. -/
def Piece.content : Piece → List Char
  | .markup text => text
  | .tag _ inner _ => tagContent inner

/-- The block that is made of a piece alone. -/
def Piece.leaf (piece : Piece) (offset : Nat) : Block :=
  ⟨piece.kind, ⟨offset, piece.width⟩, String.ofList piece.content, []⟩

/-- A block is made of a piece at a byte offset. A region is made of the tag that opens it: the
blocks inside it begin where this tag ends and are contiguous up to the end of the region. -/
inductive Depicts : Block → Nat × Piece → Prop
  /-- Of any other piece, a block without blocks inside. -/
  | leaf {offset : Nat} {piece : Piece} (h : ¬piece.Opens) :
      Depicts (piece.leaf offset) (offset, piece)
  /-- Of a tag that opens a region, the region. -/
  | region {offset length : Nat} {piece : Piece} {children : List Block} (h : piece.Opens)
      (hchildren : Contiguous (offset + piece.width) children (offset + length)) :
      Depicts ⟨.region, ⟨offset, length⟩, String.ofList piece.content, children⟩ (offset, piece)

/-- Pieces with the byte offsets at which they begin. -/
def located (offset : Nat) : List Piece → List (Nat × Piece)
  | [] => []
  | piece :: others => (offset, piece) :: located (offset + piece.width) others

/-- The number of bytes of some pieces. -/
def extent (ps : List Piece) : Nat :=
  byteLength (ps.flatMap Piece.chars)

@[simp] theorem extent_nil : extent [] = 0 := rfl

@[simp] theorem extent_cons (piece : Piece) (others : List Piece) :
    extent (piece :: others) = piece.width + extent others := by
  rw [extent, List.flatMap_cons, byteLength_append, Piece.width, extent]

@[simp] theorem extent_append (ps others : List Piece) :
    extent (ps ++ others) = extent ps + extent others := by
  rw [extent, List.flatMap_append, byteLength_append, extent, extent]

/-- Locating pieces gives each of them an offset and changes nothing else. -/
theorem map_snd_located (offset : Nat) (ps : List Piece) :
    (located offset ps).map Prod.snd = ps := by
  induction ps generalizing offset with
  | nil => rfl
  | cons piece ps ih => rw [located, List.map_cons, ih]

/-- A piece begins where the pieces before it end. -/
theorem mem_located {offset : Nat} {ps : List Piece} {place : Nat × Piece}
    (h : place ∈ located offset ps) :
    ∃ before after, ps = before ++ place.2 :: after ∧ place.1 = offset + extent before := by
  induction ps generalizing offset with
  | nil => cases h
  | cons piece ps ih =>
    rcases List.mem_cons.mp h with rfl | hlater
    · exact ⟨[], ps, rfl, rfl⟩
    · obtain ⟨before, after, rfl, hplace⟩ := ih hlater
      exact ⟨piece :: before, after, rfl, by rw [extent_cons, hplace, Nat.add_assoc]⟩

/-- A block begins where its piece does. -/
theorem Depicts.start {block : Block} {place : Nat × Piece} (h : Depicts block place) :
    block.span.start = place.1 := by
  cases h <;> rfl

/-- A block says of its piece what it is, unless it is a region. -/
theorem Depicts.kind_eq {block : Block} {place : Nat × Piece} (h : Depicts block place) :
    block.kind = place.2.kind ∨ block.kind = .region ∧ place.2.kind = .statement := by
  cases h with
  | leaf h => exact .inl rfl
  | @region offset length piece children h hchildren =>
    rcases piece with text | ⟨_ | _ | _, inner, closed⟩
    case tag.statement => exact .inr ⟨rfl, rfl⟩
    all_goals cases h

/-- A block holds the text of its piece. -/
theorem Depicts.content_eq {block : Block} {place : Nat × Piece} (h : Depicts block place) :
    block.content.toList = place.2.content := by
  cases h <;> exact String.toList_ofList

/-- A block is at least as long as its piece. -/
theorem Depicts.width_le {block : Block} {place : Nat × Piece} (h : Depicts block place) :
    place.2.width ≤ block.span.len := by
  cases h with
  | leaf h => exact Nat.le_refl _
  | region h hchildren => exact Nat.le_of_add_le_add_left hchildren.le

/-- A block that is made of a piece alone is not a region. -/
theorem Piece.kind_ne_region (piece : Piece) : piece.kind ≠ .region := by
  rcases piece with _ | ⟨_ | _ | _⟩ <;> simp [Piece.kind]

/-- A piece of markup is its text. -/
theorem Piece.eq_markup {piece : Piece} (h : piece.kind = .markup) :
    piece = .markup piece.content := by
  rcases piece with text | ⟨_ | _ | _, inner, closed⟩
  · rfl
  · cases h
  · cases h
  · cases h

/-- A region ends with the block that was put at its end. -/
theorem OpenSection.stop_push {region : OpenSection} {block : Block}
    (h : block.span.start = region.block.span.stop) :
    (region.push block).block.span.stop = block.span.stop := by
  have hle : region.block.span.start ≤ block.span.stop := by
    rw [Span.stop, h, Span.stop, Nat.add_assoc]
    exact Nat.le_add_right _ _
  exact Nat.add_sub_of_le hle

/-- A region is made of its tag after a block was put at its end, too. -/
theorem Depicts.push {region : OpenSection} {place : Nat × Piece} (h : Depicts region.block place)
    (hregion : region.block.kind = .region) {block : Block}
    (hblock : block.span.start = region.block.span.stop) :
    Depicts (region.push block).block place := by
  have hstop := OpenSection.stop_push hblock
  obtain ⟨keyword, contents⟩ := region
  cases h with
  | @leaf offset piece h => exact absurd hregion piece.kind_ne_region
  | @region offset length piece children h hchildren =>
    have hwithin : Contiguous (offset + piece.width) (children ++ [block]) block.span.stop := by
      apply Contiguous.concat
      rw [hblock]
      exact hchildren
    rw [← hstop] at hwithin
    exact .region h hwithin

/-- The nodes of a region that a block was put into are made of what its nodes and those of the
block were made of. -/
theorem forall₂_nodes_push {region : OpenSection} {block : Block}
    {places added : List (Nat × Piece)} (hregion : region.block.kind = .region)
    (hblock : block.span.start = region.block.span.stop)
    (hplaces : List.Forall₂ Depicts region.block.nodes places)
    (hadded : List.Forall₂ Depicts block.nodes added) :
    List.Forall₂ Depicts (region.push block).block.nodes (places ++ added) := by
  rw [Block.nodes_eq] at hplaces
  obtain ⟨place, places, htag, hwithin, rfl⟩ := List.forall₂_cons_left_iff.mp hplaces
  have hchildren : Block.nodesAll (region.push block).block.children =
      Block.nodesAll region.block.children ++ block.nodes := by
    simp [OpenSection.push]
  rw [Block.nodes_eq, hchildren]
  exact .cons (htag.push hregion hblock) (List.rel_append hwithin hadded)

/-! ## The tree under construction -/

/-- What the blocks of the document and the open regions, innermost first, are made of: the pieces
that were read up to a byte offset. Every region ends where the one inside it will go. -/
inductive Built (root : List Block) : List OpenSection → Nat → List (Nat × Piece) → Prop
  /-- No region is open. -/
  | document {offset : Nat} {places : List (Nat × Piece)} (hroot : Contiguous 0 root offset)
      (hplaces : List.Forall₂ Depicts (Block.nodesAll root) places) :
      Built root [] offset places
  /-- A region is open in what was built up to its tag. -/
  | region {region : OpenSection} {others : List OpenSection} {before places : List (Nat × Piece)}
      (hothers : Built root others region.block.span.start before)
      (hregion : region.block.kind = .region)
      (hplaces : List.Forall₂ Depicts region.block.nodes places) :
      Built root (region :: others) region.block.span.stop (before ++ places)

/-- What a tree under construction is made of. -/
def Nesting.MadeOf (nesting : Nesting) (offset : Nat) (places : List (Nat × Piece)) : Prop :=
  Built nesting.root nesting.stack offset places

namespace Nesting

/-- A block goes where the reader stands, and the reader then stands at its end. -/
theorem MadeOf.push {nesting : Nesting} {block : Block} {places added : List (Nat × Piece)}
    (h : nesting.MadeOf block.span.start places)
    (hadded : List.Forall₂ Depicts block.nodes added) :
    (nesting.push block).MadeOf block.span.stop (places ++ added) := by
  obtain ⟨root, stack, errors⟩ := nesting
  generalize hstart : block.span.start = offset at h
  rcases h with ⟨hroot, hplaces⟩ | @⟨region, others, before, places, hothers, hregion, hplaces⟩
  · refine .document (Contiguous.concat (hstart ▸ hroot)) ?_
    show List.Forall₂ Depicts (Block.nodesAll (root ++ [block])) (places ++ added)
    rw [Block.nodesAll_append, Block.nodesAll_cons, Block.nodesAll_nil, List.append_nil]
    exact List.rel_append hplaces hadded
  · -- Only the innermost region grows. The one around it will reach as far when it takes it in.
    have hpushed : Built root (region.push block :: others) (region.push block).block.span.stop
        (before ++ (places ++ added)) :=
      .region hothers hregion (forall₂_nodes_push hregion hstart hplaces hadded)
    rw [OpenSection.stop_push hstart, ← List.append_assoc] at hpushed
    exact hpushed

/-- The innermost region can be put into the one around it. -/
theorem MadeOf.pop {root : List Block} {region : OpenSection} {others : List OpenSection}
    {errors : List NestingError} {offset : Nat} {places : List (Nat × Piece)}
    (h : (Nesting.mk root (region :: others) errors).MadeOf offset places) :
    ((Nesting.mk root others errors).push region.block).MadeOf offset places := by
  rcases h with _ | ⟨hothers, hregion, hplaces⟩
  have houter : (Nesting.mk root others errors).MadeOf region.block.span.start _ := hothers
  exact houter.push hplaces

/-- What a tree is made of does not depend on the faults. -/
theorem MadeOf.report {nesting : Nesting} {offset : Nat} {places : List (Nat × Piece)}
    (h : nesting.MadeOf offset places) (error : NestingError) :
    (nesting.report error).MadeOf offset places := h

/-- An end tag goes where the reader stands, whether it closes the innermost region or not. -/
theorem MadeOf.close {nesting : Nesting} {endTag : Block} {places added : List (Nat × Piece)}
    (h : nesting.MadeOf endTag.span.start places)
    (hadded : List.Forall₂ Depicts endTag.nodes added) (keyword : String) (line : Nat) :
    (nesting.close keyword line endTag).MadeOf endTag.span.stop (places ++ added) := by
  obtain ⟨root, stack, errors⟩ := nesting
  cases stack with
  | nil => exact (h.report _).push hadded
  | cons innermost others =>
    simp only [Nesting.close]
    split
    · exact MadeOf.pop (h.push hadded)
    · exact (h.report _).push hadded

/-- What an unclosed tag reports changes nothing. -/
theorem MadeOf.reportUnless {nesting : Nesting} {offset : Nat} {places : List (Nat × Piece)}
    (h : nesting.MadeOf offset places) (closed : Bool) (error : NestingError) :
    (if closed then nesting else nesting.report error).MadeOf offset places := by
  cases closed with
  | true => exact h
  | false => exact h.report error

/-- The only node of a block that is made of a piece alone. -/
theorem nodes_leaf {piece : Piece} (h : ¬piece.Opens) (offset : Nat) :
    List.Forall₂ Depicts (piece.leaf offset).nodes [(offset, piece)] := by
  rw [Block.nodes_eq]
  exact .cons (.leaf h) .nil

/-- A piece that opens no region goes where the reader stands. -/
theorem MadeOf.leaf {nesting : Nesting} {offset : Nat} {places : List (Nat × Piece)}
    (h : nesting.MadeOf offset places) (piece : Piece) (hpiece : ¬piece.Opens) :
    (nesting.push (piece.leaf offset)).MadeOf (offset + piece.width)
      (places ++ [(offset, piece)]) := by
  have hstart : nesting.MadeOf (piece.leaf offset).span.start places := h
  exact hstart.push (nodes_leaf hpiece offset)

/-- A statement tag goes where the reader stands, whatever it does to the regions. -/
theorem MadeOf.addStatement {nesting : Nesting} {offset : Nat} {places : List (Nat × Piece)}
    (h : nesting.MadeOf offset places) (inner : List Char) (closed : Bool) (line : Nat) :
    (nesting.addStatement ⟨offset, (Piece.tag .statement inner closed).width⟩ (tagContent inner)
      line).MadeOf (offset + (Piece.tag .statement inner closed).width)
        (places ++ [(offset, .tag .statement inner closed)]) := by
  have hopens : (Piece.tag .statement inner closed).Opens ↔
      ∃ keyword, Role.ofContent (tagContent inner) = .opens keyword := Iff.rfl
  cases hrole : Role.ofContent (tagContent inner) with
  | opens keyword =>
    simp only [Nesting.addStatement, hrole]
    refine .region h rfl ?_
    rw [Block.nodes_eq]
    exact .cons (.region (hopens.mpr ⟨keyword, hrole⟩) rfl) .nil
  | closes keyword =>
    have hleaf : ¬(Piece.tag .statement inner closed).Opens := by simp [hopens, hrole]
    simp only [Nesting.addStatement, hrole]
    have hstart :
        nesting.MadeOf ((Piece.tag .statement inner closed).leaf offset).span.start places := h
    exact hstart.close (nodes_leaf hleaf offset) keyword line
  | leaf =>
    have hleaf : ¬(Piece.tag .statement inner closed).Opens := by simp [hopens, hrole]
    simp only [Nesting.addStatement, hrole]
    exact h.leaf _ hleaf

/-- A piece goes where the reader stands, and the reader then stands at its end. -/
theorem MadeOf.add {nesting : Nesting} {offset : Nat} {places : List (Nat × Piece)}
    (h : nesting.MadeOf offset places) (source : List Char) (piece : Piece) :
    (nesting.add source offset piece).MadeOf (offset + piece.width)
      (places ++ [(offset, piece)]) := by
  cases piece with
  | markup text => exact h.leaf (.markup text) id
  | tag kind inner closed =>
    have hreported := h.reportUnless closed (.unclosedTag kind (lineAt source offset))
    cases kind with
    | expression => exact hreported.leaf (.tag .expression inner closed) id
    | statement => exact hreported.addStatement inner closed _
    | comment => exact hreported.leaf (.tag .comment inner closed) id

/-- The pieces go one after another. -/
theorem MadeOf.addAll {nesting : Nesting} {offset : Nat} {places : List (Nat × Piece)}
    (h : nesting.MadeOf offset places) (source : List Char) (ps : List Piece) :
    (nesting.addAll source offset ps).MadeOf (offset + extent ps)
      (places ++ located offset ps) := by
  induction ps generalizing nesting offset places with
  | nil => rw [located, List.append_nil]; exact h
  | cons piece ps ih =>
    have hrest := ih (h.add source piece)
    rw [List.append_assoc, List.singleton_append, Nat.add_assoc, ← extent_cons] at hrest
    exact hrest

/-- The regions that are still open at the end are put into one another. -/
theorem MadeOf.unwind {root : List Block} {stack : List OpenSection} {errors : List NestingError}
    {offset : Nat} {places : List (Nat × Piece)} (ended : Option Block)
    (h : (ended.elim ⟨root, stack, errors⟩ (Nesting.mk root stack errors).push).MadeOf offset
      places)
    (source : List Char) :
    Contiguous 0 (unwind source root errors ended stack).1 offset ∧
      List.Forall₂ Depicts (Block.nodesAll (unwind source root errors ended stack).1) places := by
  induction stack generalizing ended errors with
  | nil =>
    have hroot : Built (root ++ ended.toList) [] offset places := by
      cases ended with
      | none => rw [Option.toList, List.append_nil]; exact h
      | some block => exact h
    rcases hroot with ⟨hroot, hplaces⟩
    exact ⟨hroot, hplaces⟩
  | cons innermost others ih =>
    rw [Nesting.unwind]
    refine ih (some _) ?_
    cases ended with
    | none => exact MadeOf.pop h
    | some block => exact MadeOf.pop h

end Nesting

/-- The blocks of the tree are made one by one of the pieces, and those of the document are
contiguous. -/
theorem segment_madeOf (source : List Char) :
    Contiguous 0 (segment source).document.children (byteLength source) ∧
      List.Forall₂ Depicts (Block.nodesAll (segment source).document.children)
        (located 0 (pieces source)) := by
  have hstart : (Nesting.mk [] [] []).MadeOf 0 [] := .document rfl .nil
  have hread := hstart.addAll source (pieces source)
  rw [Nat.zero_add, List.nil_append, extent, flatMap_chars_pieces] at hread
  exact Nesting.MadeOf.unwind none hread source

end TemplateInspector.Template
