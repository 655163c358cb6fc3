import TemplateInspector.Proofs.Template.Balance
import TemplateInspector.Proofs.Template.Tiling

/-!
# Faults in the nesting of a template

The tree under construction keeps exactly the sections open that the walk along the pieces does, and
reports exactly the end tags that do not fit, the sections that are left open and a tag without a
closing delimiter. The keywords that they name are words. Without faults the tree shows the grammar:
every region ends with its own end tag, and there are no other end tags.
-/

namespace TemplateInspector.Template

open Text

/-! ## Tags without a closing delimiter -/

/-- Whether a piece is a tag. -/
def Piece.isTag : Piece → Bool
  | .markup _ => false
  | .tag .. => true

/-- Whether a piece is a tag without a closing delimiter. -/
def Piece.isUnclosed : Piece → Bool
  | .markup _ => false
  | .tag _ _ closed => !closed

/-- The last of the tags. -/
def lastTag? (ps : List Piece) : Option Piece :=
  (ps.filter Piece.isTag).getLast?

/-- Only the last tag of a template can be without a closing delimiter. -/
theorem Lexed.countP_isUnclosed {ps : List Piece} (h : Lexed ps) :
    ps.countP Piece.isUnclosed = ((lastTag? ps).any Piece.isUnclosed).toNat := by
  induction h with
  | nil => rfl
  | markup => rfl
  | @between text inner kind closed others hempty hplain hothers ih => exact ih
  | @closed kind inner others huncut hothers ih =>
    rw [List.countP_cons_of_neg (by simp [Piece.isUnclosed]), ih, lastTag?, lastTag?,
      List.filter_cons_of_pos rfl, List.getLast?_cons]
    cases hlast : (others.filter Piece.isTag).getLast? <;> rfl
  | unclosed => rfl

/-- What is reported of a piece on a line before it is nested. -/
def Piece.faults (piece : Piece) (line : Nat) : List NestingError :=
  match piece with
  | .markup _ => []
  | .tag kind _ closed => if closed then [] else [.unclosedTag kind line]

/-- A tag without a closing delimiter is one fault. -/
theorem Piece.length_faults (piece : Piece) (line : Nat) :
    (piece.faults line).length = piece.isUnclosed.toNat := by
  rcases piece with _ | ⟨_, _, _ | _⟩ <;> rfl

/-- The keyword that a fault names. -/
def NestingError.keyword : NestingError → String
  | .unclosedTag .. => ""
  | .unexpectedEnd keyword _ | .unclosedSection keyword _ => keyword

/-! ## What a piece does to the tree -/

namespace Nesting

/-- The keywords of the open regions, innermost first. -/
def keywords (nesting : Nesting) : List String :=
  nesting.stack.map OpenSection.keyword

/-- Nests a piece at a byte offset as its role asks for. -/
def nest (nesting : Nesting) (offset line : Nat) (piece : Piece) : Nesting :=
  match piece.role with
  | .opens keyword =>
    { nesting with
      stack := ⟨keyword, ⟨.region, ⟨offset, piece.width⟩, String.ofList piece.content, []⟩⟩ ::
        nesting.stack }
  | .closes keyword => nesting.close keyword line (piece.leaf offset)
  | .leaf => nesting.push (piece.leaf offset)

/-- Adding a piece reports a missing closing delimiter and nests the piece. -/
theorem add_eq (source : List Char) (nesting : Nesting) (offset : Nat) (piece : Piece) :
    nesting.add source offset piece =
      { nesting with errors := nesting.errors ++ piece.faults (lineAt source offset) }.nest offset
        (lineAt source offset) piece := by
  rcases piece with text | ⟨kind, inner, _ | _⟩
  · rw [Piece.faults, List.append_nil]
    rfl
  · cases kind <;> rfl
  · rw [Piece.faults, if_pos rfl, List.append_nil]
    cases kind <;> rfl

@[simp] theorem errors_push (nesting : Nesting) (block : Block) :
    (nesting.push block).errors = nesting.errors := by
  rw [push]
  split <;> rfl

@[simp] theorem keywords_push (nesting : Nesting) (block : Block) :
    (nesting.push block).keywords = nesting.keywords := by
  simp only [push, keywords]
  split
  case h_1 innermost others hstack => simp [hstack, OpenSection.push]
  case h_2 hstack => simp

/-- The innermost region is closed if its keyword is that of the end tag. -/
theorem keywords_close (nesting : Nesting) (keyword : String) (line : Nat) (endTag : Block) :
    (nesting.close keyword line endTag).keywords =
      if nesting.keywords.head? = some keyword then nesting.keywords.tail
      else nesting.keywords := by
  obtain ⟨root, stack, errors⟩ := nesting
  cases stack with
  | nil => rfl
  | cons innermost others =>
    simp only [close, keywords, List.map_cons, List.head?_cons, Option.some.injEq, List.tail_cons]
    split
    · exact keywords_push ..
    · exact keywords_push ..

/-- It is a fault if there is no such region. -/
theorem errors_close (nesting : Nesting) (keyword : String) (line : Nat) (endTag : Block) :
    (nesting.close keyword line endTag).errors = nesting.errors ++
      if nesting.keywords.head? = some keyword then [] else [.unexpectedEnd keyword line] := by
  obtain ⟨root, stack, errors⟩ := nesting
  cases stack with
  | nil => simp [close, report, keywords]
  | cons innermost others =>
    by_cases hfits : innermost.keyword = keyword
    · simp [close, keywords, hfits]
    · simp [close, report, keywords, hfits]

/-- The open regions follow the walk. -/
theorem keywords_nest (nesting : Nesting) (offset line : Nat) (piece : Piece) :
    (nesting.nest offset line piece).keywords = piece.openAfter nesting.keywords := by
  simp only [nest, Piece.openAfter]
  cases piece.role with
  | opens keyword => rfl
  | closes keyword => exact keywords_close ..
  | leaf => exact keywords_push ..

/-- Nesting a piece is a fault if it is an end tag that does not fit. -/
theorem length_errors_nest (nesting : Nesting) (offset line : Nat) (piece : Piece) :
    (nesting.nest offset line piece).errors.length =
      nesting.errors.length + (piece.isStray nesting.keywords).toNat := by
  simp only [nest, Piece.isStray]
  cases piece.role with
  | opens keyword => rfl
  | closes keyword =>
    rw [errors_close, List.length_append]
    by_cases hfits : nesting.keywords.head? = some keyword <;> simp [hfits]
  | leaf => exact congrArg List.length (errors_push ..)

/-- The open regions follow the walk by one piece. -/
theorem keywords_add (source : List Char) (nesting : Nesting) (offset : Nat) (piece : Piece) :
    (nesting.add source offset piece).keywords = piece.openAfter nesting.keywords := by
  rw [add_eq]
  exact keywords_nest ..

/-- A piece is a fault if it is a tag without a closing delimiter, and again if it is an end tag
that does not fit. -/
theorem length_errors_add (source : List Char) (nesting : Nesting) (offset : Nat) (piece : Piece) :
    (nesting.add source offset piece).errors.length =
      nesting.errors.length + piece.isUnclosed.toNat + (piece.isStray nesting.keywords).toNat := by
  rw [add_eq, length_errors_nest, List.length_append, piece.length_faults]
  rfl

/-- The open regions follow the walk along the pieces. -/
theorem keywords_addAll (source : List Char) (nesting : Nesting) (offset : Nat) (ps : List Piece) :
    (nesting.addAll source offset ps).keywords = openAfter nesting.keywords ps := by
  induction ps generalizing nesting offset with
  | nil => rfl
  | cons piece ps ih =>
    rw [addAll, ih, keywords_add]
    rfl

/-- The faults are the tags without a closing delimiter and the end tags that do not fit. -/
theorem length_errors_addAll (source : List Char) (nesting : Nesting) (offset : Nat)
    (ps : List Piece) :
    (nesting.addAll source offset ps).errors.length =
      nesting.errors.length + (ps.countP Piece.isUnclosed + strayEnds nesting.keywords ps) := by
  induction ps generalizing nesting offset with
  | nil => rfl
  | cons piece ps ih =>
    have hcount : (piece :: ps).countP Piece.isUnclosed =
        ps.countP Piece.isUnclosed + piece.isUnclosed.toNat := by
      rw [List.countP_cons]
      cases piece.isUnclosed <;> rfl
    rw [addAll, ih, length_errors_add, keywords_add, hcount, strayEnds]
    omega

/-- Every region that is still open at the end is one more fault. -/
theorem map_keyword_unwind (source : List Char) (root : List Block) (errors : List NestingError)
    (ended : Option Block) (stack : List OpenSection) :
    (unwind source root errors ended stack).2.map NestingError.keyword =
      errors.map NestingError.keyword ++ stack.map OpenSection.keyword := by
  induction stack generalizing errors ended with
  | nil => rw [unwind, List.map_nil, List.append_nil]
  | cons innermost others ih =>
    rw [unwind, ih, List.map_append, List.append_assoc]
    rfl

end Nesting

/-- There is one fault for each tag without a closing delimiter, each end tag that does not fit and
each section that is left open. -/
theorem length_errors_segment (source : List Char) :
    (segment source).errors.length = (pieces source).countP Piece.isUnclosed +
      strayEnds [] (pieces source) + (openAfter [] (pieces source)).length := by
  have hread := Nesting.length_errors_addAll source {} 0 (pieces source)
  have hopen := Nesting.keywords_addAll source {} 0 (pieces source)
  have hlength : (Nesting.addAll source {} 0 (pieces source)).stack.length =
      (openAfter [] (pieces source)).length := by
    rw [← List.length_map (f := OpenSection.keyword)]
    exact congrArg List.length hopen
  have hstart : (Nesting.mk [] [] []).errors.length = 0 := rfl
  rw [segment, ← List.length_map NestingError.keyword, Nesting.map_keyword_unwind,
    List.length_append, List.length_map, List.length_map, hread, hlength, hstart, Nat.zero_add]
  rfl

/-- There is no fault exactly if every tag is closed and the sections are balanced. -/
theorem errors_segment_eq_nil_iff (source : List Char) :
    (segment source).errors = [] ↔
      (∀ piece ∈ pieces source, piece.isUnclosed = false) ∧ Balanced (pieces source) := by
  rw [← List.length_eq_zero_iff, length_errors_segment, balanced_iff_walks, Walks]
  simp only [Nat.add_eq_zero_iff, List.length_eq_zero_iff, List.countP_eq_zero, and_assoc,
    Bool.not_eq_true]

/-! ## The keywords that faults name -/

/-- A keyword is a word: it has no blanks. -/
def IsWord (keyword : String) : Prop :=
  ∀ c ∈ keyword.toList, isBlank c = false

/-- The first word of a statement tag is that of its content. -/
theorem Piece.word?_eq_some_iff {piece : Piece} {word : List Char} :
    piece.word? = some word ↔ piece.kind = .statement ∧ firstWord piece.content = word := by
  rcases piece with text | ⟨_ | _ | _, inner, closed⟩ <;> simp [word?, kind, content]

/-- The keyword that a piece opens or closes a section of is a word. -/
theorem isWord_of_word? {piece : Piece} {word : List Char} {keyword : String}
    (h : piece.word? = some word) (hkeyword : keyword.toList ⊆ word) : IsWord keyword := by
  obtain ⟨-, rfl⟩ := Piece.word?_eq_some_iff.mp h
  intro c hc
  have hmem := hkeyword hc
  simpa using List.all_eq_true.mp List.all_takeWhile c hmem

/-- The keywords of the open regions and of the faults are words. -/
structure Nesting.Worded (nesting : Nesting) : Prop where
  /-- Those of the open regions. -/
  stack : ∀ keyword ∈ nesting.keywords, IsWord keyword
  /-- Those of the faults. -/
  errors : ∀ error ∈ nesting.errors, IsWord error.keyword

namespace Nesting.Worded

/-- They are words after a piece. -/
theorem nest {nesting : Nesting} (h : nesting.Worded) (offset line : Nat) (piece : Piece) :
    (nesting.nest offset line piece).Worded := by
  simp only [Nesting.nest]
  cases hrole : piece.role with
  | opens keyword =>
    have hword : IsWord keyword :=
      isWord_of_word? (Piece.role_eq_opens_iff.mp hrole).2 (List.Subset.refl _)
    exact ⟨List.forall_mem_cons.mpr ⟨hword, h.stack⟩, h.errors⟩
  | closes keyword =>
    have hword : IsWord keyword :=
      isWord_of_word? (Piece.role_eq_closes_iff.mp hrole) (List.subset_append_right _ _)
    constructor
    · rw [keywords_close]
      split
      · exact fun other hother => h.stack other (List.mem_of_mem_tail hother)
      · exact h.stack
    · rw [errors_close]
      intro error herror
      rcases List.mem_append.mp herror with hbefore | hfault
      · exact h.errors error hbefore
      · split at hfault
        · cases hfault
        · obtain rfl := List.mem_singleton.mp hfault
          exact hword
  | leaf => exact ⟨by rw [keywords_push]; exact h.stack, by rw [errors_push]; exact h.errors⟩

/-- They are words after a piece is added. -/
theorem add {nesting : Nesting} (h : nesting.Worded) (source : List Char) (offset : Nat)
    (piece : Piece) : (nesting.add source offset piece).Worded := by
  have hnoted : { nesting with
      errors := nesting.errors ++ piece.faults (lineAt source offset) }.Worded := by
    refine ⟨h.stack, fun error herror => ?_⟩
    rcases List.mem_append.mp herror with hbefore | hfault
    · exact h.errors error hbefore
    · rcases piece with _ | ⟨kind, inner, _ | _⟩
      · cases hfault
      · obtain rfl := List.mem_singleton.mp hfault
        exact fun c hc => absurd hc List.not_mem_nil
      · cases hfault
  rw [add_eq]
  exact hnoted.nest _ _ _

/-- They are words after all pieces. -/
theorem addAll {nesting : Nesting} (h : nesting.Worded) (source : List Char) (offset : Nat)
    (ps : List Piece) : (nesting.addAll source offset ps).Worded := by
  induction ps generalizing nesting offset with
  | nil => exact h
  | cons piece ps ih => exact ih (h.add source offset piece) _

end Nesting.Worded

/-- Every fault of a template names a word. -/
theorem isWord_keyword_of_mem_errors {source : List Char} {error : NestingError}
    (h : error ∈ (segment source).errors) : IsWord error.keyword := by
  have hstart : (Nesting.mk [] [] []).Worded := ⟨by simp [Nesting.keywords], by simp⟩
  have hread := hstart.addAll source 0 (pieces source)
  have hnamed := List.mem_map_of_mem (f := NestingError.keyword) h
  rw [segment, Nesting.map_keyword_unwind] at hnamed
  rcases List.mem_append.mp hnamed with hreported | hopen
  · obtain ⟨other, hother, heq⟩ := List.mem_map.mp hreported
    exact heq ▸ hread.errors other hother
  · exact hread.stack _ hopen

/-! ## A tree without faults -/

/-- A statement whose first word begins with `end`. -/
def IsEndTag (block : Block) : Prop :=
  block.kind = .statement ∧ "end".toList <+: firstWord block.content.toList

/-- The last block inside a region is its own end tag, and there is no end tag before it. -/
def EndsWithOwnTag (region : Block) : Prop :=
  ∃ inside endTag, region.children = inside ++ [endTag] ∧ endTag.kind = .statement ∧
    firstWord endTag.content.toList = "end".toList ++ firstWord region.content.toList ∧
    ∀ block ∈ inside, ¬IsEndTag block

/-- Among these blocks there is no end tag, and all regions in them end with their own tags. -/
structure Tidy (blocks : List Block) : Prop where
  /-- No block is an end tag. -/
  noEndTag : ∀ block ∈ blocks, ¬IsEndTag block
  /-- Every region ends with its own tag. -/
  regions : ∀ region ∈ Block.nodesAll blocks, region.kind = .region → EndsWithOwnTag region

theorem Tidy.nil : Tidy [] := ⟨by simp, by simp⟩

theorem Tidy.append {blocks others : List Block} (h : Tidy blocks) (hothers : Tidy others) :
    Tidy (blocks ++ others) where
  noEndTag block hblock := (List.mem_append.mp hblock).elim (h.noEndTag _) (hothers.noEndTag _)
  regions region hregion hkind := by
    rw [Block.nodesAll_append] at hregion
    exact (List.mem_append.mp hregion).elim (fun hmem => h.regions _ hmem hkind)
      (fun hmem => hothers.regions _ hmem hkind)

/-- A block that is made of a piece alone is its only node. -/
theorem Piece.nodes_leaf (piece : Piece) (offset : Nat) :
    (piece.leaf offset).nodes = [piece.leaf offset] :=
  Block.nodes_eq _

/-- A piece that is not an end tag is tidy by itself. -/
theorem tidy_leaf {piece : Piece} (h : piece.role = .leaf) (offset : Nat) :
    Tidy [piece.leaf offset] where
  noEndTag := by
    rintro block hblock ⟨hkind, rest, hword⟩
    obtain rfl := List.mem_singleton.mp hblock
    simp only [Piece.leaf, String.toList_ofList] at hword
    refine (Piece.role_eq_leaf_iff.mp h).2 (String.ofList rest) (Piece.word?_eq_some_iff.mpr ?_)
    exact ⟨hkind, by simpa using hword.symm⟩
  regions := by
    rintro region hregion hkind
    rw [Block.nodesAll_cons, Piece.nodes_leaf] at hregion
    obtain rfl := List.mem_singleton.mp hregion
    exact absurd hkind piece.kind_ne_region

/-- An open region is a region of its keyword in which everything is tidy. -/
structure OpenSection.Orderly (region : OpenSection) : Prop where
  /-- It is a region. -/
  kind : region.block.kind = .region
  /-- Its keyword is its first word. -/
  keyword : firstWord region.block.content.toList = region.keyword.toList
  /-- Its blocks are tidy. -/
  children : Tidy region.block.children

/-- A region that takes in its own end tag is tidy. -/
theorem OpenSection.Orderly.tidy_close {region : OpenSection} (h : region.Orderly) {closing : Piece}
    (hclosing : closing.ClosesSection region.keyword) (offset : Nat) :
    Tidy [(region.push (closing.leaf offset)).block] where
  noEndTag := by
    rintro block hblock ⟨hkind, -⟩
    obtain rfl := List.mem_singleton.mp hblock
    rw [OpenSection.push, h.kind] at hkind
    cases hkind
  regions := by
    obtain ⟨hkind, hword⟩ := Piece.word?_eq_some_iff.mp hclosing
    intro node hnode hregion
    have hnodes : node = (region.push (closing.leaf offset)).block ∨
        node ∈ Block.nodesAll region.block.children ∨ node = closing.leaf offset := by
      rw [Block.nodesAll_cons, Block.nodes_eq] at hnode
      simpa [OpenSection.push, Piece.nodes_leaf] using hnode
    rcases hnodes with rfl | hinside | rfl
    · refine ⟨region.block.children, closing.leaf offset, rfl, hkind, ?_, h.children.noEndTag⟩
      rw [OpenSection.push, h.keyword, Piece.leaf, String.toList_ofList, hword]
    · exact h.children.regions node hinside hregion
    · exact absurd hregion closing.kind_ne_region

/-- What was read so far is tidy, inside and outside of the open regions. -/
structure Nesting.Orderly (nesting : Nesting) : Prop where
  /-- The blocks outside of every open region are tidy. -/
  root : Tidy nesting.root
  /-- The open regions are orderly. -/
  stack : ∀ region ∈ nesting.stack, region.Orderly

namespace Nesting.Orderly

/-- A tidy block may go anywhere. -/
theorem push {nesting : Nesting} (h : nesting.Orderly) {block : Block} (hblock : Tidy [block]) :
    (nesting.push block).Orderly := by
  obtain ⟨root, stack, errors⟩ := nesting
  cases stack with
  | nil => exact ⟨h.root.append hblock, by simp [Nesting.push]⟩
  | cons innermost others =>
    obtain ⟨hinnermost, hothers⟩ := List.forall_mem_cons.mp h.stack
    refine ⟨h.root, List.forall_mem_cons.mpr ⟨?_, hothers⟩⟩
    exact ⟨hinnermost.kind, hinnermost.keyword, hinnermost.children.append hblock⟩

/-- A piece that is not an end tag out of place leaves everything tidy. -/
theorem nest {nesting : Nesting} (h : nesting.Orderly) {offset line : Nat} {piece : Piece}
    (hstray : piece.isStray nesting.keywords = false) :
    (nesting.nest offset line piece).Orderly := by
  simp only [Nesting.nest]
  cases hrole : piece.role with
  | opens keyword =>
    obtain ⟨-, hword⟩ := Piece.role_eq_opens_iff.mp hrole
    obtain ⟨-, hword⟩ := Piece.word?_eq_some_iff.mp hword
    refine ⟨h.root, List.forall_mem_cons.mpr ⟨⟨rfl, ?_, Tidy.nil⟩, h.stack⟩⟩
    rw [String.toList_ofList, hword]
  | closes keyword =>
    obtain ⟨root, stack, errors⟩ := nesting
    have hfits : stack.head?.map OpenSection.keyword = some keyword := by
      simpa [Piece.isStray, hrole, Nesting.keywords] using hstray
    cases stack with
    | nil => cases hfits
    | cons innermost others =>
      obtain rfl : innermost.keyword = keyword := Option.some.inj hfits
      obtain ⟨hinnermost, hothers⟩ := List.forall_mem_cons.mp h.stack
      have hclosed := hinnermost.tidy_close (Piece.role_eq_closes_iff.mp hrole) offset
      have houter : (Nesting.mk root others errors).Orderly := ⟨h.root, hothers⟩
      simpa only [Nesting.close, if_true] using houter.push hclosed
  | leaf => exact h.push (tidy_leaf hrole offset)

/-- The same holds when the piece is added. -/
theorem add {nesting : Nesting} (h : nesting.Orderly) (source : List Char) (offset : Nat)
    {piece : Piece} (hstray : piece.isStray nesting.keywords = false) :
    (nesting.add source offset piece).Orderly := by
  have hnoted : { nesting with
      errors := nesting.errors ++ piece.faults (lineAt source offset) }.Orderly :=
    ⟨h.root, h.stack⟩
  rw [add_eq]
  exact hnoted.nest hstray

/-- Pieces among which no end tag is out of place leave everything tidy. -/
theorem addAll {nesting : Nesting} (h : nesting.Orderly) (source : List Char) (offset : Nat)
    {ps : List Piece} (hstray : strayEnds nesting.keywords ps = 0) :
    (nesting.addAll source offset ps).Orderly := by
  induction ps generalizing nesting offset with
  | nil => exact h
  | cons piece ps ih =>
    rw [strayEnds, Nat.add_eq_zero_iff, Bool.toNat_eq_zero] at hstray
    obtain ⟨hpiece, hothers⟩ := hstray
    refine ih (h.add source offset hpiece) _ ?_
    rw [keywords_add]
    exact hothers

end Nesting.Orderly

/-- A tree without faults is tidy. -/
theorem tidy_segment {source : List Char} (h : (segment source).errors = []) :
    Tidy (segment source).document.children := by
  obtain ⟨hstray, hopen⟩ := balanced_iff_walks.mp ((errors_segment_eq_nil_iff source).mp h).2
  have hstart : (Nesting.mk [] [] []).Orderly := ⟨.nil, by simp⟩
  have hread := (hstart.addAll source 0 hstray).root
  have hstack : (Nesting.addAll source {} 0 (pieces source)).stack = [] := by
    have hkeywords := Nesting.keywords_addAll source {} 0 (pieces source)
    exact List.map_eq_nil_iff.mp (hkeywords.trans hopen)
  rw [segment, hstack]
  simpa [Nesting.unwind] using hread

/-! ## The faults decide the grammar -/

/-- How the end tags stand in a tree without faults. -/
structure EndTagsInPlace (document : Block) : Prop where
  /-- The last block inside every region is its own end tag, the only one of its blocks. -/
  regions : ∀ region ∈ document.nodes, region.kind = .region → EndsWithOwnTag region
  /-- Nothing else has an end tag inside. -/
  others : ∀ block ∈ document.nodes, block.kind ≠ .region →
    ∀ child ∈ block.children, ¬IsEndTag child

/-- The faults of a template decide whether its sections are balanced. Its one reading as markup and
tags shows how many there are, and without faults the tree has end tags only where regions end. -/
theorem errors_decide_balance (source : List Char) :
    ∃ ps, Lexes ps source ∧ (∀ others, Lexes others source → others = ps) ∧
      ((segment source).errors = [] ↔
        (∀ piece ∈ ps, piece.isUnclosed = false) ∧ Balanced ps) ∧
      (segment source).errors.length = ((lastTag? ps).any Piece.isUnclosed).toNat +
        strayEnds [] ps + (openAfter [] ps).length ∧
      ((segment source).errors = [] → EndTagsInPlace (segment source).document) := by
  have hlexes := (lexes_iff (pieces source) source).mpr rfl
  refine ⟨pieces source, hlexes, fun others h => (lexes_iff others source).mp h,
    errors_segment_eq_nil_iff source, ?_, fun herrors => ?_⟩
  · rw [length_errors_segment, hlexes.lexed.countP_isUnclosed]
  · have htidy := tidy_segment herrors
    obtain ⟨-, hblocks⟩ := segment_madeOf source
    have hnodes : ∀ node ∈ (segment source).document.nodes,
        node = (segment source).document ∨
          node ∈ Block.nodesAll (segment source).document.children := by
      intro node hnode
      rw [Block.nodes_eq] at hnode
      exact List.mem_cons.mp hnode
    refine ⟨fun region hregion hkind => ?_, fun block hblock hkind child hchild => ?_⟩
    · rcases hnodes region hregion with rfl | hinside
      · cases hkind
      · exact htidy.regions region hinside hkind
    · rcases hnodes block hblock with rfl | hinside
      · exact htidy.noEndTag child hchild
      · -- Inside the document only regions have blocks inside.
        obtain ⟨place, -, hdepicts⟩ := exists_place hblocks hinside
        exact absurd (hdepicts.kind_of_children (List.ne_nil_of_mem hchild)) hkind

end TemplateInspector.Template
