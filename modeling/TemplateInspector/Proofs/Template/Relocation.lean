import Mathlib.Order.Monotone.Defs
import TemplateInspector.Proofs.Template.Faults

/-!
# Trees with other byte offsets

Two templates whose pieces say the same one by one have the same tree, up to the byte offsets at
which things stand. If the offsets of one are taken monotonically to those of the other, then every
step of the construction commutes with this: a block goes into the same region and the same faults
are reported, so the finished trees differ only in their spans.
-/

namespace TemplateInspector

/-! ## Moving byte offsets -/

/-- A span whose ends are moved. -/
def Span.relocate (f : Nat → Nat) (span : Span) : Span :=
  ⟨f span.start, f span.stop - f span.start⟩

/-- The end of a span is moved like its start, if the order of offsets is kept. -/
theorem Span.stop_relocate {f : Nat → Nat} (hf : Monotone f) (span : Span) :
    (span.relocate f).stop = f span.stop :=
  Nat.add_sub_of_le (hf (Nat.le_add_right _ _))

/-- A span is moved to the offset that its start goes to, with the length that is left for it. -/
theorem Span.relocate_mk {f : Nat → Nat} {start len length : Nat}
    (h : f (start + len) = f start + length) :
    (⟨start, len⟩ : Span).relocate f = ⟨f start, length⟩ := by
  rw [relocate, stop, h, Nat.add_sub_cancel_left]

namespace Block

mutual

/-- A tree in which the ends of all spans are moved, and nothing else. -/
def relocate (f : Nat → Nat) : Block → Block
  | ⟨kind, span, content, children⟩ => ⟨kind, span.relocate f, content, relocateAll f children⟩

/-- Trees in which the ends of all spans are moved. -/
def relocateAll (f : Nat → Nat) : List Block → List Block
  | [] => []
  | block :: others => relocate f block :: relocateAll f others

end

variable (f : Nat → Nat)

theorem relocate_eq (block : Block) :
    block.relocate f =
      ⟨block.kind, block.span.relocate f, block.content, relocateAll f block.children⟩ := by
  cases block
  rw [relocate]

@[simp] theorem relocateAll_append (blocks others : List Block) :
    relocateAll f (blocks ++ others) = relocateAll f blocks ++ relocateAll f others := by
  induction blocks with
  | nil => rfl
  | cons block blocks ih => rw [List.cons_append, relocateAll, relocateAll, ih, List.cons_append]

@[simp] theorem relocateAll_toList (block? : Option Block) :
    relocateAll f block?.toList = (block?.map (relocate f)).toList := by
  cases block? <;> rfl

end Block

namespace Template

open Text

/-- An open region whose byte offsets are moved. -/
def OpenSection.relocate (f : Nat → Nat) (region : OpenSection) : OpenSection :=
  { region with block := region.block.relocate f }

/-- A tree under construction whose byte offsets are moved. -/
def Nesting.relocate (f : Nat → Nat) (nesting : Nesting) : Nesting where
  root := Block.relocateAll f nesting.root
  stack := nesting.stack.map (OpenSection.relocate f)
  errors := nesting.errors

/-- A tree and its faults, with the byte offsets of the tree moved. -/
def Segmentation.relocate (f : Nat → Nat) (segmentation : Segmentation) : Segmentation :=
  { segmentation with document := segmentation.document.relocate f }

variable {f : Nat → Nat}

/-! ## The construction commutes with moving offsets -/

/-- A block is put at the end of a region, wherever both stand. -/
theorem OpenSection.relocate_push (hf : Monotone f) (region : OpenSection) (block : Block) :
    (region.push block).relocate f = (region.relocate f).push (block.relocate f) := by
  have hstop : (block.relocate f).span.stop = f block.span.stop := by
    rw [Block.relocate_eq, Span.stop_relocate hf]
  have hspan : (region.push block).block.span.relocate f =
      ⟨f region.block.span.start, f block.span.stop - f region.block.span.start⟩ := by
    simp only [Span.relocate, Span.stop, push, Span.mk.injEq, true_and]
    rcases Nat.le_total region.block.span.start (block.span.start + block.span.len) with hle | hle
    · rw [Nat.add_sub_of_le hle]
    · rw [Nat.sub_eq_zero_of_le hle, Nat.add_zero, Nat.sub_self, Nat.sub_eq_zero_of_le (hf hle)]
  rw [relocate, Block.relocate_eq, hspan]
  simp only [push, relocate, hstop, Block.relocate_eq f region.block, Block.relocateAll_append,
    Block.relocateAll, Span.relocate]

namespace Nesting

theorem relocate_push (hf : Monotone f) (nesting : Nesting) (block : Block) :
    (nesting.push block).relocate f = (nesting.relocate f).push (block.relocate f) := by
  obtain ⟨root, stack, errors⟩ := nesting
  cases stack with
  | nil => simp [push, relocate, Block.relocateAll]
  | cons innermost others => simp [push, relocate, OpenSection.relocate_push hf]

/-- An end tag closes the same region, wherever it stands. -/
theorem relocate_close (hf : Monotone f) (nesting : Nesting) (keyword : String) (line : Nat)
    (endTag : Block) :
    (nesting.close keyword line endTag).relocate f =
      (nesting.relocate f).close keyword line (endTag.relocate f) := by
  obtain ⟨root, stack, errors⟩ := nesting
  cases stack with
  | nil => exact relocate_push hf _ endTag
  | cons innermost others =>
    have hkeyword : (innermost.relocate f).keyword = innermost.keyword := rfl
    simp only [close, relocate, List.map_cons, hkeyword]
    split
    · rw [← OpenSection.relocate_push hf]
      exact relocate_push hf _ _
    · exact relocate_push hf _ endTag

end Nesting

/-- Two pieces say the same: they make the same block, do the same to the nesting and have the same
faults. Their lengths may differ. -/
structure Piece.SaysSame (piece other : Piece) : Prop where
  /-- They are of one kind. -/
  kind : other.kind = piece.kind
  /-- They have the same text. -/
  content : other.content = piece.content
  /-- They open or close the same section, or none. -/
  role : other.role = piece.role
  /-- A closing delimiter is missing in both or in none. -/
  faults : other.faults = piece.faults

/-- Every piece says the same as itself. -/
theorem Piece.SaysSame.refl (piece : Piece) : piece.SaysSame piece := ⟨rfl, rfl, rfl, rfl⟩

/-- Pieces that say the same make the same block, up to its span. -/
theorem Piece.SaysSame.relocate_leaf {piece other : Piece} (h : piece.SaysSame other) {offset : Nat}
    (hwidth : f (offset + piece.width) = f offset + other.width) :
    (piece.leaf offset).relocate f = other.leaf (f offset) := by
  rw [Block.relocate_eq, Piece.leaf, Piece.leaf, h.kind, h.content, Span.relocate_mk hwidth]
  rfl

/-- Pieces that say the same are nested alike. -/
theorem Nesting.relocate_nest (hf : Monotone f) (nesting : Nesting) {piece other : Piece}
    (h : piece.SaysSame other) {offset : Nat}
    (hwidth : f (offset + piece.width) = f offset + other.width) (line : Nat) :
    (nesting.nest offset line piece).relocate f =
      (nesting.relocate f).nest (f offset) line other := by
  have hleaf := h.relocate_leaf hwidth
  simp only [nest, h.role]
  cases piece.role with
  | opens keyword =>
    simp only [relocate, List.map_cons, OpenSection.relocate, Block.relocate_eq,
      Span.relocate_mk hwidth, h.content, Block.relocateAll]
  | closes keyword => rw [relocate_close hf, hleaf]
  | leaf => rw [relocate_push hf, hleaf]

/-! ## Pieces one by one -/

/-- The offsets of some pieces that begin at `offset` are taken to those of other pieces, which say
the same one by one. -/
inductive Carries (f : Nat → Nat) : Nat → List Piece → List Piece → Prop
  /-- Nothing is left. -/
  | nil {offset : Nat} : Carries f offset [] []
  /-- A piece that says the same, and more. -/
  | cons {offset : Nat} {piece other : Piece} {ps others : List Piece}
      (hsame : piece.SaysSame other)
      (hwidth : f (offset + piece.width) = f offset + other.width)
      (hothers : Carries f (offset + piece.width) ps others) :
      Carries f offset (piece :: ps) (other :: others)

namespace Carries

/-- The end of the pieces is taken to the end of the other pieces. -/
theorem extent {offset : Nat} {ps others : List Piece} (h : Carries f offset ps others) :
    f (offset + Template.extent ps) = f offset + Template.extent others := by
  induction h with
  | nil => rfl
  | cons hsame hwidth hothers ih => rw [extent_cons, extent_cons, ← Nat.add_assoc, ih, hwidth,
      Nat.add_assoc]

/-- Pieces that follow are taken along. -/
theorem append {offset : Nat} {ps others qs rest : List Piece} (h : Carries f offset ps others)
    (hrest : Carries f (offset + Template.extent ps) qs rest) :
    Carries f offset (ps ++ qs) (others ++ rest) := by
  induction h with
  | nil => exact hrest
  | cons hsame hwidth hothers ih =>
    refine .cons hsame hwidth (ih ?_)
    rwa [extent_cons, ← Nat.add_assoc] at hrest

/-- Pieces are taken to themselves where all offsets are moved by the same distance. -/
theorem rigid {offset : Nat} {ps : List Piece}
    (h : ∀ length ≤ Template.extent ps, f (offset + length) = f offset + length) :
    Carries f offset ps ps := by
  induction ps generalizing offset with
  | nil => exact .nil
  | cons piece ps ih =>
    rw [extent_cons] at h
    have hwidth := h piece.width (by omega)
    refine .cons (.refl piece) hwidth (ih fun length hlength => ?_)
    rw [Nat.add_assoc, h _ (by omega), hwidth, Nat.add_assoc]

end Carries

namespace Nesting

variable {source moved : List Char}

/-- Pieces that say the same one by one are added alike. -/
theorem relocate_addAll (hf : Monotone f)
    (hline : ∀ offset, lineAt moved (f offset) = lineAt source offset) {offset : Nat}
    {ps others : List Piece} (h : Carries f offset ps others) (nesting : Nesting) :
    (nesting.addAll source offset ps).relocate f =
      (nesting.relocate f).addAll moved (f offset) others := by
  induction h generalizing nesting with
  | nil => rfl
  | @cons offset piece other ps others hsame hwidth hothers ih =>
    have hadd : (nesting.add source offset piece).relocate f =
        (nesting.relocate f).add moved (f offset) other := by
      rw [add_eq, add_eq, relocate_nest hf _ hsame hwidth, hline, hsame.faults]
      rfl
    rw [addAll, addAll, ih, hadd, hwidth]

/-- The regions that are left open are ended alike, with the same faults. -/
theorem relocate_unwind (hf : Monotone f)
    (hline : ∀ offset, lineAt moved (f offset) = lineAt source offset) (root : List Block)
    (errors : List NestingError) (ended : Option Block) (stack : List OpenSection) :
    unwind moved (Block.relocateAll f root) errors (ended.map (Block.relocate f))
        (stack.map (OpenSection.relocate f)) =
      (Block.relocateAll f (unwind source root errors ended stack).1,
        (unwind source root errors ended stack).2) := by
  induction stack generalizing errors ended with
  | nil => simp [unwind]
  | cons innermost others ih =>
    have hended : (ended.map (Block.relocate f)).elim (innermost.relocate f)
        (innermost.relocate f).push = (ended.elim innermost innermost.push).relocate f := by
      cases ended with
      | none => rfl
      | some block => exact (OpenSection.relocate_push hf innermost block).symm
    have hstart (region : OpenSection) :
        lineAt moved (region.relocate f).block.span.start =
          lineAt source region.block.span.start := by
      rw [OpenSection.relocate, Block.relocate_eq]
      exact hline _
    rw [List.map_cons, unwind, unwind, hended, hstart]
    exact ih _ (some _)

end Nesting

/-- Templates whose pieces say the same one by one have the same tree, up to the offsets, and the
same faults, if the lines of the offsets are kept. -/
theorem segment_eq_relocate {source moved : List Char} (hf : Monotone f) (hzero : f 0 = 0)
    (hline : ∀ offset, lineAt moved (f offset) = lineAt source offset)
    (h : Carries f 0 (pieces source) (pieces moved)) :
    segment moved = (segment source).relocate f := by
  have hlength : f (0 + byteLength source) = f 0 + byteLength moved := by
    have hextent := h.extent
    rwa [extent, flatMap_chars_pieces, extent, flatMap_chars_pieces] at hextent
  have hadd : (Nesting.addAll source {} 0 (pieces source)).relocate f =
      Nesting.addAll moved {} 0 (pieces moved) := by
    have hadd := Nesting.relocate_addAll hf hline h {}
    rwa [hzero] at hadd
  rw [segment, segment, ← hadd]
  generalize Nesting.addAll source {} 0 (pieces source) = nesting
  have hunwind := Nesting.relocate_unwind hf hline nesting.root nesting.errors none nesting.stack
  rw [Option.map_none] at hunwind
  simp only [Nesting.relocate, hunwind, Segmentation.relocate, Block.relocate_eq,
    Span.relocate_mk hlength, hzero]

end Template

end TemplateInspector
