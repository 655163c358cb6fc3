import TemplateInspector.Proofs.Template.Depiction

/-!
# The tree of a template is a tiling

Nothing of a template is lost, doubled or moved in its tree: blocks that are next to each other
leave no gap, regions go from the start of their opening tag to the end of what is inside them, and
the blocks in preorder are the markup and the tags of the template in order.
-/

namespace TemplateInspector.Template

open Text

/-! ## Pieces in the template -/

/-- A piece stands in a template at a byte offset. The text of a tag lies between its delimiters; an
unclosed tag goes to the end of the template. -/
def Piece.StandsIn (source : List Char) (offset : Nat) : Piece → Prop
  | .markup text => IsSlice source offset (offset + byteLength text) text
  | .tag kind inner closed =>
    let stop := offset + 2 + byteLength inner
    IsSlice source offset (offset + 2) ['{', kind.opening] ∧
      IsSlice source (offset + 2) stop inner ∧
      if closed then IsSlice source stop (stop + 2) [kind.closing, '}']
      else stop = byteLength source

/-- What follows the first piece follows the grammar. -/
theorem Lexed.tail {piece : Piece} {ps : List Piece} (h : Lexed (piece :: ps)) : Lexed ps := by
  cases h with
  | markup => exact .nil
  | between hempty hplain hothers => exact hothers
  | closed huncut hothers => exact hothers
  | unclosed => exact .nil

/-- What follows some pieces follows the grammar. -/
theorem Lexed.of_append {before ps : List Piece} (h : Lexed (before ++ ps)) : Lexed ps := by
  induction before with
  | nil => exact h
  | cons piece before ih => exact ih h.tail

/-- A piece has bytes. -/
theorem Lexed.width_pos {piece : Piece} {ps : List Piece} (h : Lexed (piece :: ps)) :
    0 < piece.width := by
  apply byteLength_pos
  cases h with
  | markup hempty => exact hempty
  | between hempty => exact hempty
  | closed => exact List.cons_ne_nil _ _
  | unclosed => exact List.cons_ne_nil _ _

/-- The opening delimiter has two bytes. -/
theorem byteLength_opening (kind : TagKind) : byteLength ['{', kind.opening] = 2 := by
  cases kind <;> rfl

/-- The closing delimiter has two bytes. -/
theorem byteLength_closing (kind : TagKind) : byteLength [kind.closing, '}'] = 2 := by
  cases kind <;> rfl

/-- Every piece stands where it was located. -/
theorem Lexes.standsIn {ps : List Piece} {source : List Char} (h : Lexes ps source)
    {place : Nat × Piece} (hplace : place ∈ located 0 ps) : place.2.StandsIn source place.1 := by
  obtain ⟨offset, piece⟩ := place
  obtain ⟨before, after, rfl, hoffset⟩ := mem_located hplace
  obtain ⟨rfl, hlexed⟩ := h
  rw [Nat.zero_add] at hoffset
  have hlexed := hlexed.of_append
  have hbefore : byteLength (before.flatMap Piece.chars) = offset := hoffset.symm
  rw [List.flatMap_append, List.flatMap_cons]
  generalize before.flatMap Piece.chars = before at hbefore
  cases piece with
  | markup text => exact ⟨before, _, (List.append_assoc ..).symm, hbefore, rfl⟩
  | tag kind inner closed =>
    have hopening : byteLength (before ++ ['{', kind.opening]) = offset + 2 := by
      rw [byteLength_append, byteLength_opening, hbefore]
    have hinner : byteLength (before ++ ['{', kind.opening] ++ inner) =
        offset + 2 + byteLength inner := by
      rw [byteLength_append, hopening]
    have hlast : closed = false → after = [] := by
      rintro rfl
      cases hlexed
      rfl
    rw [chars_tag]
    refine ⟨⟨before, inner ++ (if closed then [kind.closing, '}'] else []) ++
        after.flatMap Piece.chars, by simp, hbefore, by rw [byteLength_opening]⟩,
      ⟨before ++ ['{', kind.opening], (if closed then [kind.closing, '}'] else []) ++
        after.flatMap Piece.chars, by simp, hopening, rfl⟩, ?_⟩
    cases closed with
    | true => exact ⟨_, after.flatMap Piece.chars, by simp, hinner, by rw [byteLength_closing]⟩
    | false => simp [hlast, ← hinner]

/-! ## Offsets in the tree -/

/-- Later pieces begin at greater offsets. -/
theorem Lexed.pairwise_located {ps : List Piece} (h : Lexed ps) (offset : Nat) :
    (located offset ps).Pairwise fun place later => place.1 < later.1 := by
  induction ps generalizing offset with
  | nil => exact .nil
  | cons piece ps ih =>
    refine .cons (fun later hlater => ?_) (ih h.tail _)
    obtain ⟨before, after, -, hlater⟩ := mem_located hlater
    have hwidth := h.width_pos
    rw [hlater]
    show offset < _
    omega

/-- Blocks begin where the pieces do that they are made of. -/
theorem map_start_eq {blocks : List Block} {places : List (Nat × Piece)}
    (h : List.Forall₂ Depicts blocks places) :
    (blocks.map fun block => block.span.start) = places.map Prod.fst := by
  induction h with
  | nil => rfl
  | cons hblock hothers ih => rw [List.map_cons, List.map_cons, ih, hblock.start]

/-- Every block is made of one of the pieces. -/
theorem exists_place {blocks : List Block} {places : List (Nat × Piece)}
    (h : List.Forall₂ Depicts blocks places) {block : Block} (hblock : block ∈ blocks) :
    ∃ place ∈ places, Depicts block place := by
  induction h with
  | nil => cases hblock
  | cons hfirst hothers ih =>
    rcases List.mem_cons.mp hblock with rfl | hlater
    · exact ⟨_, List.mem_cons_self, hfirst⟩
    · obtain ⟨place, hplace, hdepicts⟩ := ih hlater
      exact ⟨place, List.mem_cons_of_mem _ hplace, hdepicts⟩

/-- Of every piece one of the blocks is made. -/
theorem exists_block {blocks : List Block} {places : List (Nat × Piece)}
    (h : List.Forall₂ Depicts blocks places) {place : Nat × Piece} (hplace : place ∈ places) :
    ∃ block ∈ blocks, Depicts block place := by
  induction h with
  | nil => cases hplace
  | cons hfirst hothers ih =>
    rcases List.mem_cons.mp hplace with rfl | hlater
    · exact ⟨_, List.mem_cons_self, hfirst⟩
    · obtain ⟨block, hblock, hdepicts⟩ := ih hlater
      exact ⟨block, List.mem_cons_of_mem _ hblock, hdepicts⟩

/-- Blocks that are put together are made of pieces that follow one another. -/
theorem forall₂_append_located {blocks others : List Block} {offset : Nat} {ps : List Piece}
    (h : List.Forall₂ Depicts (blocks ++ others) (located offset ps)) :
    ∃ before after, ps = before ++ after ∧
      List.Forall₂ Depicts blocks (located offset before) ∧
      List.Forall₂ Depicts others (located (offset + extent before) after) := by
  induction blocks generalizing offset ps with
  | nil => exact ⟨[], ps, rfl, .nil, h⟩
  | cons block blocks ih =>
    cases ps with
    | nil => cases h
    | cons piece ps =>
      obtain ⟨hblock, hrest⟩ := List.forall₂_cons.mp h
      obtain ⟨before, after, rfl, hbefore, hafter⟩ := ih hrest
      rw [Nat.add_assoc, ← extent_cons] at hafter
      exact ⟨piece :: before, after, rfl, .cons hblock hbefore, hafter⟩

mutual

/-- A tree ends where the last of the pieces does that its nodes are made of. -/
theorem stop_of_nodes : (block : Block) → {offset : Nat} → {ps : List Piece} →
    List.Forall₂ Depicts block.nodes (located offset ps) → block.span.stop = offset + extent ps
  | ⟨kind, span, content, children⟩, offset, ps, h => by
    rw [Block.nodes_eq] at h
    cases ps with
    | nil => cases h
    | cons piece ps =>
      obtain ⟨hblock, hchildren⟩ := List.forall₂_cons.mp h
      rw [extent_cons, ← Nat.add_assoc]
      cases hblock with
      | leaf =>
        cases ps with
        | nil => rfl
        | cons next ps => cases hchildren
      | region hopens hcontiguous => exact stop_of_nodesAll children hcontiguous hchildren

/-- Contiguous trees end where the last of the pieces does that their nodes are made of. -/
theorem stop_of_nodesAll : (blocks : List Block) → {start stop : Nat} → {ps : List Piece} →
    Contiguous start blocks stop → List.Forall₂ Depicts (Block.nodesAll blocks) (located start ps) →
      stop = start + extent ps
  | [], start, stop, ps, h, hplaces => by
    cases ps with
    | nil => exact h.symm
    | cons piece ps => cases hplaces
  | block :: others, start, stop, ps, h, hplaces => by
    obtain ⟨hstart, hothers⟩ := h
    rw [Block.nodesAll_cons] at hplaces
    obtain ⟨before, after, rfl, hbefore, hafter⟩ := forall₂_append_located hplaces
    rw [← stop_of_nodes block hbefore] at hafter
    rw [stop_of_nodesAll others hothers hafter, stop_of_nodes block hbefore, extent_append,
      Nat.add_assoc]

end

/-- The bytes of a block are those of the pieces that its nodes are made of. -/
theorem isSlice_of_mem_nodesAll {blocks : List Block} {ps : List Piece}
    (h : List.Forall₂ Depicts (Block.nodesAll blocks) (located 0 ps)) {block : Block}
    (hblock : block ∈ Block.nodesAll blocks) :
    ∃ chars, IsSlice (ps.flatMap Piece.chars) block.span.start block.span.stop chars := by
  obtain ⟨earlier, later, hnodes⟩ := Block.nodesAll_within blocks hblock
  rw [← hnodes] at h
  obtain ⟨read, after, rfl, hread, -⟩ := forall₂_append_located h
  obtain ⟨before, within, rfl, -, hwithin⟩ := forall₂_append_located hread
  have hstop := stop_of_nodes block hwithin
  have hstart : block.span.start = 0 + extent before := by
    rw [Block.nodes_eq] at hwithin
    cases within with
    | nil => cases hwithin
    | cons piece within => exact (List.forall₂_cons.mp hwithin).1.start
  refine ⟨within.flatMap Piece.chars, before.flatMap Piece.chars, after.flatMap Piece.chars,
    by rw [List.flatMap_append, List.flatMap_append], ?_, ?_⟩
  · rw [hstart, Nat.zero_add, extent]
  · rw [hstop, hstart, ← extent]

/-- The bytes of a markup block are its content. -/
theorem Depicts.isSlice_markup {source : List Char} {block : Block} {place : Nat × Piece}
    (h : Depicts block place) (hstands : place.2.StandsIn source place.1)
    (hmarkup : block.kind = .markup) :
    IsSlice source block.span.start block.span.stop block.content.toList := by
  cases h with
  | @leaf offset piece hopens =>
    rcases piece with text | ⟨_ | _ | _⟩
    · rw [Piece.leaf, Piece.content, String.toList_ofList]
      exact hstands
    · cases hmarkup
    · cases hmarkup
    · cases hmarkup
  | region hopens hchildren => cases hmarkup

/-- A block with blocks inside is a region. -/
theorem Depicts.kind_of_children {block : Block} {place : Nat × Piece} (h : Depicts block place)
    (hchildren : block.children ≠ []) : block.kind = .region := by
  cases h with
  | leaf hopens => exact absurd rfl hchildren
  | region hopens hcontiguous => rfl

/-! ## The tiling -/

/-- A tree tiles a template that is read as some pieces. -/
structure Tiles (source : List Char) (ps : List Piece) (document : Block) : Prop where
  /-- The root is the document. -/
  kind : document.kind = .document
  /-- The document covers the template. -/
  span : document.span = ⟨0, byteLength source⟩
  /-- The blocks of the document go from one end of the template to the other without a gap. -/
  children : Contiguous 0 document.children (byteLength source)
  /-- The other blocks, each before those inside it, are made of the pieces: each piece makes one
  block, in order, and the blocks inside a region go from its tag to its end without a gap. -/
  blocks : List.Forall₂ Depicts (Block.nodesAll document.children) (located 0 ps)
  /-- The pieces stand in the template where the blocks begin. -/
  pieces : ∀ place ∈ located 0 ps, place.2.StandsIn source place.1
  /-- Every block begins and ends between two characters of the template. -/
  slices : ∀ block ∈ Block.nodesAll document.children,
    ∃ chars, IsSlice source block.span.start block.span.stop chars
  /-- No block is empty. -/
  nonempty : ∀ block ∈ Block.nodesAll document.children, 0 < block.span.len
  /-- Every block begins after those before it. -/
  increasing : (Block.nodesAll document.children).Pairwise fun block later =>
    block.span.start < later.span.start
  /-- Markup is exactly what the template has there. -/
  markup : ∀ block ∈ Block.nodesAll document.children, block.kind = .markup →
    IsSlice source block.span.start block.span.stop block.content.toList
  /-- Only regions have blocks inside. -/
  regions : ∀ block ∈ Block.nodesAll document.children, block.children ≠ [] → block.kind = .region

/-- Every template has exactly one reading as markup and tags, and its tree is a tiling of the
template by the blocks that are made of them. -/
theorem segment_tiles (source : List Char) :
    ∃ ps, Lexes ps source ∧ (∀ others, Lexes others source → others = ps) ∧
      Tiles source ps (segment source).document := by
  have hlexes := (lexes_iff (pieces source) source).mpr rfl
  obtain ⟨hchildren, hblocks⟩ := segment_madeOf source
  refine ⟨pieces source, hlexes, fun others h => (lexes_iff others source).mp h,
    rfl, rfl, hchildren, hblocks, fun place hplace => hlexes.standsIn hplace, ?_, ?_, ?_, ?_, ?_⟩
  · intro block hblock
    have hslice := isSlice_of_mem_nodesAll hblocks hblock
    rw [hlexes.chars] at hslice
    exact hslice
  · intro block hblock
    obtain ⟨place, hplace, hdepicts⟩ := exists_place hblocks hblock
    obtain ⟨before, after, hpieces, -⟩ := mem_located hplace
    have hlexed : Lexed (before ++ place.2 :: after) := hpieces ▸ hlexes.lexed
    exact Nat.lt_of_lt_of_le hlexed.of_append.width_pos hdepicts.width_le
  · have hoffsets : ((located 0 (pieces source)).map Prod.fst).Pairwise (· < ·) :=
      List.pairwise_map.mpr (hlexes.lexed.pairwise_located 0)
    rw [← map_start_eq hblocks] at hoffsets
    exact List.pairwise_map.mp hoffsets
  · intro block hblock hmarkup
    obtain ⟨place, hplace, hdepicts⟩ := exists_place hblocks hblock
    exact hdepicts.isSlice_markup (hlexes.standsIn hplace) hmarkup
  · intro block hblock hinside
    obtain ⟨place, -, hdepicts⟩ := exists_place hblocks hblock
    exact hdepicts.kind_of_children hinside

end TemplateInspector.Template
