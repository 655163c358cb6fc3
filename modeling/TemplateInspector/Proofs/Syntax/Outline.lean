import TemplateInspector.Proofs.Syntax.Nodes
import TemplateInspector.Proofs.Text.Lines
import TemplateInspector.Syntax.Outline

/-!
# What an outline tells of a tree

An outline has one line for each node of the tree, in preorder, and no content of a node adds or
hides a line or moves an indentation. So the depth, the kind and the span of every node can be read
off its line, and since the depths of the nodes in preorder determine how they are nested, an
outline determines the tree up to the contents of its nodes.
-/

namespace TemplateInspector

open Text

namespace Text

/-- Two texts that are cut at the first occurrence of a character have the same parts if they are
the same. -/
theorem eq_of_append_cons_eq {c : Char} {left right left' right' : List Char} (h : c ∉ left)
    (h' : c ∉ left') (heq : left ++ c :: right = left' ++ c :: right') :
    left = left' ∧ right = right' := by
  induction left generalizing left' with
  | nil =>
    cases left' with
    | nil => exact ⟨rfl, (List.cons.inj heq).2⟩
    | cons d left' =>
      obtain ⟨rfl, -⟩ := List.cons.inj heq
      exact absurd List.mem_cons_self h'
  | cons d left ih =>
    cases left' with
    | nil =>
      obtain ⟨rfl, -⟩ := List.cons.inj heq
      exact absurd List.mem_cons_self h
    | cons d' left' =>
      obtain ⟨rfl, hrest⟩ := List.cons.inj heq
      obtain ⟨rfl, hright⟩ := ih (List.not_mem_of_not_mem_cons h) (List.not_mem_of_not_mem_cons h')
        hrest
      exact ⟨rfl, hright⟩

/-- Different numbers are written differently. -/
theorem toString_injective : Function.Injective (toString : Nat → String) := by
  intro n m h
  have hdigits : Nat.toDigits 10 n = Nat.toDigits 10 m := by
    have hchars : (toString n).toList = (toString m).toList := congrArg String.toList h
    rwa [show (toString n).toList = Nat.toDigits 10 n from Nat.toList_repr,
      show (toString m).toList = Nat.toDigits 10 m from Nat.toList_repr] at hchars
  rw [← Nat.ofDigitChars_ten_toDigits (n := n), hdigits, Nat.ofDigitChars_ten_toDigits]

end Text

/-! ## The line of a node -/

namespace BlockKind

/-- The name of a kind is one word, and it is told apart from the indentation. -/
theorem isBlank_of_mem_title (kind : BlockKind) : ∀ c ∈ kind.title.toList, isBlank c = false := by
  have hnone : kind.title.toList.any isBlank = false := by cases kind <;> decide
  simpa using hnone

/-- No two kinds have the same name. -/
theorem title_injective : Function.Injective title := by
  intro kind kind' h
  cases kind <;> cases kind' <;> first | rfl | exact absurd h (by decide)

end BlockKind

namespace Block

/-- What the line of a node shows of it between the indentation and the content. -/
def label (block : Block) : List Char :=
  block.kind.title.toList ++
    (" [" ++ toString block.span.start ++ ".." ++ toString block.span.stop ++ "] ").toList

/-- The line of a node: its indentation, its kind with the bytes it covers, and the beginning of its
content. -/
theorem outlineLine_eq (depth : Nat) (block : Block) :
    outlineLine depth block =
      List.replicate (2 * depth) ' ' ++ (block.label ++ preview block.content) := by
  simp only [outlineLine, label, List.append_assoc]

/-- No control character is left in the beginning of a content. -/
theorem isControl_of_mem_preview {content : String} {c : Char} (h : c ∈ preview content) :
    isControl c = false := by
  obtain ⟨d, -, rfl⟩ := List.mem_map.mp ((isPrefix_dropBlanksEnd _).subset h)
  split
  · rfl
  · simpa using ‹¬ isControl d = true›

/-- The line of a node is one line, whatever its content is. -/
theorem isPhysicalLine_outlineLine (depth : Nat) (block : Block) :
    IsPhysicalLine (String.ofList (outlineLine depth block)) := by
  have hindent : IsPhysicalLine (String.ofList (List.replicate (2 * depth) ' ')) := by
    intro c hc
    rw [String.toList_ofList] at hc
    rw [List.eq_of_mem_replicate hc]
    rfl
  have htitle : IsPhysicalLine block.kind.title :=
    isPhysicalLine_of_isBlank block.kind.isBlank_of_mem_title
  have hspan : IsPhysicalLine
      (" [" ++ toString block.span.start ++ ".." ++ toString block.span.stop ++ "] ") := by
    simp only [isPhysicalLine_append, isPhysicalLine_toString, and_true]
    decide
  have hpreview : IsPhysicalLine (String.ofList (preview block.content)) := by
    refine isPhysicalLine_iff.mpr ?_
    rw [String.toList_ofList]
    exact ⟨fun hmem => Bool.noConfusion (isControl_of_mem_preview hmem),
      fun hmem => Bool.noConfusion (isControl_of_mem_preview hmem)⟩
  have hline : String.ofList (outlineLine depth block) =
      String.ofList (List.replicate (2 * depth) ' ') ++ block.kind.title ++
        (" [" ++ toString block.span.start ++ ".." ++ toString block.span.stop ++ "] ") ++
        String.ofList (preview block.content) := by
    simp only [← String.toList_inj, outlineLine, String.toList_ofList, String.toList_append]
  rw [hline]
  exact isPhysicalLine_append.mpr ⟨isPhysicalLine_append.mpr
    ⟨isPhysicalLine_append.mpr ⟨hindent, htitle⟩, hspan⟩, hpreview⟩

/-- The spaces that the line of a node begins with are its indentation. -/
theorem takeWhile_outlineLine (depth : Nat) (block : Block) :
    (outlineLine depth block).takeWhile (· == ' ') = List.replicate (2 * depth) ' ' := by
  have hlabel (rest : List Char) : (block.label ++ rest).takeWhile (· == ' ') = [] := by
    rw [label]
    cases block.kind <;> rfl
  rw [outlineLine_eq, List.takeWhile_append_of_pos fun c hc => by
    simp [List.eq_of_mem_replicate hc], hlabel, List.append_nil]

/-- What is shown of a node before its content, and the depth, can be read off its line. -/
theorem outlineLine_injective {depth depth' : Nat} {block block' : Block}
    (h : outlineLine depth block = outlineLine depth' block') :
    depth = depth' ∧ block.kind = block'.kind ∧ block.span = block'.span := by
  have hindent : List.replicate (2 * depth) ' ' = List.replicate (2 * depth') ' ' := by
    rw [← takeWhile_outlineLine depth block, h, takeWhile_outlineLine]
  have hdepth : depth = depth' := by
    have hlength := congrArg List.length hindent
    simp only [List.length_replicate] at hlength
    omega
  -- The line is cut at the blank after the kind, at the first dot and at the bracket.
  have hlabel : block.kind.title.toList ++ ' ' :: ('[' :: (toString block.span.start).toList ++
        '.' :: ('.' :: (toString block.span.stop).toList ++ ']' :: ' ' :: preview block.content)) =
      block'.kind.title.toList ++ ' ' :: ('[' :: (toString block'.span.start).toList ++
        '.' :: ('.' :: (toString block'.span.stop).toList ++
          ']' :: ' ' :: preview block'.content)) := by
    rw [outlineLine_eq, outlineLine_eq, hindent] at h
    simpa [label] using List.append_cancel_left h
  have hcut {n : Nat} {first c : Char} (hfirst : c ≠ first) (hc : c.isDigit = false) :
      c ∉ first :: (toString n).toList :=
    List.not_mem_cons_of_ne_of_not_mem hfirst fun hmem =>
      Bool.noConfusion (hc.symm.trans (isDigit_of_mem_toString hmem))
  have hword {kind : BlockKind} : ' ' ∉ kind.title.toList := fun hmem =>
    Bool.noConfusion (kind.isBlank_of_mem_title ' ' hmem)
  obtain ⟨hkind, hspan⟩ := eq_of_append_cons_eq hword hword hlabel
  obtain ⟨hstart, hrest⟩ :=
    eq_of_append_cons_eq (hcut (by decide) rfl) (hcut (by decide) rfl) hspan
  obtain ⟨hstop, -⟩ := eq_of_append_cons_eq (hcut (by decide) rfl) (hcut (by decide) rfl) hrest
  have hstart' := toString_injective (String.toList_inj.mp (List.cons.inj hstart).2)
  have hstop' := toString_injective (String.toList_inj.mp (List.cons.inj hstop).2)
  refine ⟨hdepth, BlockKind.title_injective (String.toList_inj.mp hkind), ?_⟩
  rw [Span.stop, Span.stop, hstart'] at hstop'
  exact Span.mk.injEq .. |>.mpr ⟨hstart', Nat.add_left_cancel hstop'⟩

/-! ## The lines of an outline -/

mutual

/-- A tree is listed with as many entries as it has nodes. -/
theorem length_preorder (depth : Nat) :
    (block : Block) → (block.preorder depth).length = block.nodeCount
  | ⟨kind, span, content, children⟩ => by
    rw [preorder, nodeCount, List.length_cons, length_preorderAll (depth + 1) children,
      Nat.add_comm]

/-- So are some trees. -/
theorem length_preorderAll (depth : Nat) :
    (blocks : List Block) → (preorderAll depth blocks).length = nodeCountAll blocks
  | [] => rfl
  | block :: others => by
    rw [preorderAll, nodeCountAll, List.length_append, length_preorder depth block,
      length_preorderAll depth others]

end

/-- The lines of the nodes of a tree, in preorder. -/
def outlineLines (block : Block) : List String :=
  (block.preorder 0).map fun (depth, node) => String.ofList (outlineLine depth node)

/-- An outline is made of the lines of the nodes, each ended by a line feed. -/
theorem outline_eq (block : Block) :
    block.outline = String.join (block.outlineLines.map (· ++ "\n")) := by
  rw [← String.toList_inj, outline, String.toList_ofList, String.toList_join, outlineLines,
    List.map_map, List.flatMap_map]
  refine congrArg (List.flatMap · _) (funext fun entry => ?_)
  simp only [Function.comp_apply, String.toList_append, String.toList_ofList]
  rfl

/-- The lines of an outline are the lines of the nodes. -/
theorem lines_outline (block : Block) : lines block.outline = block.outlineLines := by
  rw [outline_eq]
  refine lines_join fun line hline => ?_
  obtain ⟨⟨depth, node⟩, -, rfl⟩ := List.mem_map.mp hline
  exact (isPhysicalLine_outlineLine depth node).isLine

/-- An outline has as many line feeds as the tree has nodes. -/
theorem count_outline (block : Block) : block.outline.toList.count '\n' = block.nodeCount := by
  have hline (entry : Nat × Block) :
      (outlineLine entry.1 entry.2 ++ ['\n']).count '\n' = 1 := by
    have hfeed := (isPhysicalLine_iff.mp (isPhysicalLine_outlineLine entry.1 entry.2)).1
    rw [String.toList_ofList] at hfeed
    rw [List.count_append, List.count_eq_zero_of_not_mem hfeed]
    rfl
  rw [outline, String.toList_ofList, List.count_flatMap, ← length_preorder 0 block]
  simp [Function.comp_def, hline]

/-! ## The shape of a tree -/

mutual

/-- A tree without the contents of its nodes. -/
def bare : Block → Block
  | ⟨kind, span, _, children⟩ => ⟨kind, span, "", bareAll children⟩

/-- Some trees without the contents of their nodes. -/
def bareAll : List Block → List Block
  | [] => []
  | block :: others => bare block :: bareAll others

end

/-- What an outline shows of the nodes of some trees of one depth: the depth, the kind and the span
of each. -/
def sketch (depth : Nat) (blocks : List Block) : List (Nat × BlockKind × Span) :=
  (preorderAll depth blocks).map fun (depth, node) => (depth, node.kind, node.span)

@[simp] theorem sketch_nil (depth : Nat) : sketch depth [] = [] := rfl

@[simp] theorem sketch_cons (depth : Nat) (block : Block) (others : List Block) :
    sketch depth (block :: others) =
      (depth, block.kind, block.span) :: (sketch (depth + 1) block.children ++
        sketch depth others) := by
  obtain ⟨kind, span, content, children⟩ := block
  simp [sketch, preorderAll, preorder]

/-- A list of nodes ends the trees of a depth: it is empty, or it goes on with a node of less
depth. -/
def Ends (depth : Nat) (rest : List (Nat × BlockKind × Span)) : Prop :=
  ∀ entry ∈ rest.head?, entry.1 < depth

/-- Whatever follows trees of one depth, their nodes are children that have ended, too, for what
follows is not as deep as these. -/
theorem Ends.sketch {depth : Nat} {rest : List (Nat × BlockKind × Span)} (h : Ends depth rest)
    (blocks : List Block) : Ends (depth + 1) (sketch depth blocks ++ rest) := by
  intro entry hentry
  cases blocks with
  | nil => exact Nat.lt_succ_of_lt (h entry hentry)
  | cons block others =>
    rw [sketch_cons, List.cons_append, List.head?_cons, Option.mem_some_iff] at hentry
    rw [← hentry]
    exact Nat.lt_succ_self depth

mutual

/-- Trees of one depth can be read off what is shown of their nodes, whatever follows that is not as
deep. The induction is on the nesting of the first trees. -/
theorem bareAll_eq_of_sketch_eq {depth : Nat} {rest rest' : List (Nat × BlockKind × Span)}
    (hrest : Ends depth rest) (hrest' : Ends depth rest') :
    (blocks blocks' : List Block) →
      sketch depth blocks ++ rest = sketch depth blocks' ++ rest' →
        bareAll blocks = bareAll blocks' ∧ rest = rest'
  | [], [], h => ⟨rfl, h⟩
  | [], block :: others, h => by
    rw [sketch_nil, List.nil_append] at h
    have hhead : (depth, block.kind, block.span) ∈ rest.head? := by simp [h]
    exact absurd (hrest _ hhead) (Nat.lt_irrefl depth)
  | block :: others, [], h => by
    rw [sketch_nil, List.nil_append] at h
    have hhead : (depth, block.kind, block.span) ∈ rest'.head? := by simp [← h]
    exact absurd (hrest' _ hhead) (Nat.lt_irrefl depth)
  | block :: others, block' :: others', h => by
    simp only [sketch_cons, List.cons_append, List.append_assoc, List.cons.injEq,
      Prod.mk.injEq] at h
    obtain ⟨⟨-, hkind, hspan⟩, hbelow⟩ := h
    obtain ⟨hbare, hbehind⟩ := bare_eq_of_sketch_eq (hrest.sketch others) (hrest'.sketch others')
      block block' hkind hspan hbelow
    obtain ⟨hothers, hends⟩ := bareAll_eq_of_sketch_eq hrest hrest' others others' hbehind
    exact ⟨by rw [bareAll, bareAll, hbare, hothers], hends⟩

/-- So can a tree, given its own kind and span. -/
theorem bare_eq_of_sketch_eq {depth : Nat} {rest rest' : List (Nat × BlockKind × Span)}
    (hrest : Ends (depth + 1) rest) (hrest' : Ends (depth + 1) rest') :
    (block block' : Block) → block.kind = block'.kind → block.span = block'.span →
      sketch (depth + 1) block.children ++ rest = sketch (depth + 1) block'.children ++ rest' →
        block.bare = block'.bare ∧ rest = rest'
  | ⟨kind, span, content, children⟩, ⟨kind', span', content', children'⟩, hkind, hspan, h => by
    obtain ⟨hchildren, hends⟩ := bareAll_eq_of_sketch_eq hrest hrest' children children' h
    exact ⟨by rw [bare, bare, hchildren]; exact congrArg₂ (Block.mk · · _ _) hkind hspan, hends⟩

end

/-- Trees with the same outline differ at most in contents. -/
theorem bare_eq_of_outline_eq {block block' : Block} (h : block.outline = block'.outline) :
    block.bare = block'.bare := by
  have hlines : block.outlineLines = block'.outlineLines := by
    rw [← lines_outline, h, lines_outline]
  have hsketch : sketch 0 [block] = sketch 0 [block'] := by
    simp only [sketch, preorderAll, List.append_nil]
    refine List.ext_getElem? fun i => ?_
    have hline := congrArg (fun lines : List String => lines[i]?) hlines
    simp only [outlineLines, List.getElem?_map] at hline ⊢
    rcases hentry : (block.preorder 0)[i]? with _ | ⟨depth, node⟩ <;>
      rcases hentry' : (block'.preorder 0)[i]? with _ | ⟨depth', node'⟩ <;>
      simp only [hentry, hentry', Option.map_none, Option.map_some, reduceCtorEq] at hline ⊢
    have hchars : outlineLine depth node = outlineLine depth' node' := by
      simpa using congrArg String.toList (Option.some.inj hline)
    obtain ⟨rfl, hkind, hspan⟩ := outlineLine_injective hchars
    rw [hkind, hspan]
  have hends : Ends 0 [] := fun entry hentry => nomatch hentry
  have hbare := (bareAll_eq_of_sketch_eq hends hends [block] [block'] (by rw [hsketch])).1
  simpa only [bareAll, List.cons.injEq, and_true] using hbare

/-- An outline has one line for each node, and as many line feeds, each of which ends one line. The
line of the node that comes at some place in preorder comes at this place. It begins with twice as
many spaces as the node is deep, and no more, and goes on with the kind and the bytes covered. So an
outline determines a tree up to the contents of its nodes, whatever these are. -/
theorem outline_pictures (block : Block) :
    block.outline.toList.count '\n' = block.nodeCount ∧
      block.outline = String.join ((lines block.outline).map (· ++ "\n")) ∧
      (lines block.outline).length = block.nodeCount ∧
      (∀ line ∈ lines block.outline, '\n' ∉ line.toList ∧ '\r' ∉ line.toList) ∧
      (block.preorder 0).length = block.nodeCount ∧
      (∀ (i depth : Nat) (node : Block), (block.preorder 0)[i]? = some (depth, node) →
        ∃ (line : String) (rest : List Char), (lines block.outline)[i]? = some line ∧
          line.toList.takeWhile (· == ' ') = List.replicate (2 * depth) ' ' ∧
          line.toList = List.replicate (2 * depth) ' ' ++ node.kind.title.toList ++
            (" [" ++ toString node.span.start ++ ".." ++ toString node.span.stop ++ "] ").toList ++
              rest) ∧
      ∀ other : Block, other.outline = block.outline → other.bare = block.bare := by
  have hlines := lines_outline block
  have hlength : (lines block.outline).length = block.nodeCount := by
    rw [hlines, outlineLines, List.length_map, length_preorder]
  refine ⟨count_outline block, ?_, hlength, ?_, length_preorder 0 block, ?_,
    fun _ h => bare_eq_of_outline_eq h⟩
  · rw [hlines]
    exact outline_eq block
  · intro line hline
    rw [hlines] at hline
    obtain ⟨⟨depth, node⟩, -, rfl⟩ := List.mem_map.mp hline
    exact isPhysicalLine_iff.mp (isPhysicalLine_outlineLine depth node)
  · intro i depth node hentry
    refine ⟨String.ofList (outlineLine depth node), preview node.content, ?_, ?_, ?_⟩
    · rw [hlines, outlineLines, List.getElem?_map, hentry, Option.map_some]
    · rw [String.toList_ofList, takeWhile_outlineLine]
    · rw [String.toList_ofList, outlineLine]

/-- Contents that would break or forge a line do not hide the nesting, and other contents of the
same outline leave it as it is. -/
theorem outline_pictures_forged :
    let tree (content : String) : Block :=
      ⟨.document, ⟨0, 9⟩, content, [⟨.region, ⟨0, 7⟩, "if é\n  Markup [0..1]",
        [⟨.markup, ⟨2, 3⟩, "", []⟩]⟩, ⟨.comment, ⟨7, 2⟩, "", []⟩]⟩
    (tree "a\nb\n").preorder 0 ≠ (tree "a b").preorder 0 ∧
      ((tree "a\nb\n").preorder 0)[2]? = some (2, ⟨.markup, ⟨2, 3⟩, "", []⟩) ∧
      (∃ (line : String) (rest : List Char), (lines (tree "a\nb\n").outline)[2]? = some line ∧
        line.toList.takeWhile (· == ' ') = List.replicate 4 ' ' ∧
        line.toList = "    Markup [2..5] ".toList ++ rest) ∧
      (tree "a b").outline = (tree "a\nb\n").outline ∧
      (tree "a b").bare = (tree "a\nb\n").bare := by
  intro tree
  have hentry : ((tree "a\nb\n").preorder 0)[2]? = some (2, ⟨.markup, ⟨2, 3⟩, "", []⟩) := rfl
  have hsame : (tree "a b").outline = (tree "a\nb\n").outline := by decide +kernel
  obtain ⟨-, -, -, -, -, hpictured, hdetermined⟩ := outline_pictures (tree "a\nb\n")
  obtain ⟨line, rest, hline, hindent, hlabel⟩ := hpictured 2 2 _ hentry
  exact ⟨by decide +kernel, hentry, ⟨line, rest, hline, hindent, hlabel⟩, hsame,
    hdetermined _ hsame⟩

end Block

end TemplateInspector
