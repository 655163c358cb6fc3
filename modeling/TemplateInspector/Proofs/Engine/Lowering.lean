import TemplateInspector.Engine.Tagged
import TemplateInspector.Proofs.Template.Tiling

/-!
# Lowering in design time and at runtime

The body that a template is lowered to is described by the blocks of its tree in preorder, once for
each mode. The two modes report the same, and the body of design time without line pragmas and
template comments is that of runtime. Line pragmas follow the template from top to bottom.
-/

namespace TemplateInspector.Tagged

open Template Text

/-! ## The two bodies -/

/-- The blocks of a tree beside the document, each before those inside it. -/
def blocksOf (document : Block) : List Block :=
  document.nodes.filter fun block => block.kind ≠ .document

/-- The statement that a block stands for. -/
def statementOf (block : Block) : Statement :=
  match block.kind with
  | .markup => .writeLiteral block.content
  | .expression => .writeExpression block.content
  | .comment => .comment block.content
  | .document | .statement | .region => .comment ("\x7b% " ++ block.content ++ " %\x7d")

/-- At runtime every block but a template comment becomes one statement. -/
def runtimeBody (blocks : List Block) : List Statement :=
  (blocks.filter fun block => block.kind ≠ .comment).map statementOf

/-- In design time every block becomes a line pragma and one statement. The statements are given
with their blocks. -/
def designBody (source : List Char) (blocks : List Block) : List (Block × Statement) :=
  blocks.flatMap fun block =>
    [(block, .linePragma (lineAt source block.span.start)), (block, statementOf block)]

/-- The body in either mode. -/
def bodyOf (source : List Char) (designTime : Bool) (blocks : List Block) : List Statement :=
  if designTime then (designBody source blocks).map Prod.snd else runtimeBody blocks

/-- Whether a statement is a line pragma. -/
def isPragma : Statement → Bool
  | .linePragma _ => true
  | _ => false

/-- What is left of a body without line pragmas and the statements of template comments. -/
def erase (body : List (Block × Statement)) : List Statement :=
  (body.filter fun entry => entry.1.kind ≠ .comment && !isPragma entry.2).map Prod.snd

@[simp] theorem isPragma_linePragma (line : Nat) : isPragma (.linePragma line) = true := rfl

/-- No block stands for a line pragma. -/
@[simp] theorem isPragma_statementOf (block : Block) : isPragma (statementOf block) = false := by
  rw [statementOf]
  split <;> rfl

/-- A statement of a body that is no line pragma stands for one of the blocks. -/
theorem exists_block_of_mem_bodyOf {source : List Char} {designTime : Bool} {blocks : List Block}
    {statement : Statement} (h : statement ∈ bodyOf source designTime blocks)
    (hpragma : isPragma statement = false) :
    ∃ block ∈ blocks, statementOf block = statement := by
  cases designTime with
  | false =>
    obtain ⟨block, hblock, heq⟩ := List.mem_map.mp h
    exact ⟨block, List.mem_of_mem_filter hblock, heq⟩
  | true =>
    obtain ⟨entry, hentry, rfl⟩ := List.mem_map.mp h
    obtain ⟨block, hblock, hmem⟩ := List.mem_flatMap.mp hentry
    simp only [List.mem_cons, List.not_mem_nil, or_false] at hmem
    rcases hmem with rfl | rfl
    · cases hpragma
    · exact ⟨block, hblock, rfl⟩

/-- Every block that is no template comment has its statement in the body. -/
theorem statementOf_mem_bodyOf (source : List Char) (designTime : Bool) {blocks : List Block}
    {block : Block} (hblock : block ∈ blocks) (hkind : block.kind ≠ .comment) :
    statementOf block ∈ bodyOf source designTime blocks := by
  cases designTime with
  | false => exact List.mem_map_of_mem (List.mem_filter.mpr ⟨hblock, decide_eq_true hkind⟩)
  | true =>
    refine List.mem_map.mpr ⟨(block, statementOf block), ?_, rfl⟩
    exact List.mem_flatMap.mpr ⟨block, hblock, by simp⟩

/-- The body of design time is erased to that of runtime. -/
theorem erase_designBody (source : List Char) (blocks : List Block) :
    erase (designBody source blocks) = runtimeBody blocks := by
  induction blocks with
  | nil => rfl
  | cons block blocks ih =>
    rw [designBody, List.flatMap_cons, ← designBody]
    by_cases hcomment : block.kind = .comment
    · simpa [erase, runtimeBody, hcomment] using ih
    · simpa [erase, runtimeBody, hcomment] using ih

/-- The statements of a block are those of the body of this block. -/
theorem lowerBlock_eq (source : List Char) (designTime : Bool) {block : Block}
    (h : block.kind ≠ .document) :
    lowerBlock source designTime block = bodyOf source designTime [block] := by
  cases designTime <;> cases hkind : block.kind <;>
    simp [lowerBlock, bodyOf, designBody, runtimeBody, statementOf, tagComment, hkind]
  all_goals exact absurd hkind h

/-- The body of some blocks is put together of the bodies of the blocks. -/
theorem bodyOf_cons (source : List Char) (designTime : Bool) (block : Block)
    (blocks : List Block) :
    bodyOf source designTime (block :: blocks) =
      bodyOf source designTime [block] ++ bodyOf source designTime blocks := by
  cases designTime with
  | false =>
    by_cases hcomment : block.kind = .comment
    · simp [bodyOf, runtimeBody, hcomment]
    · simp [bodyOf, runtimeBody, hcomment]
  | true => simp [bodyOf, designBody]

/-- Lowering gives the body of the mode. -/
theorem lower_eq (source : List Char) (designTime : Bool) (document : Block) :
    lower source designTime document = bodyOf source designTime (blocksOf document) := by
  have hnodes : lower source designTime document =
      document.nodes.flatMap (lowerBlock source designTime) := by
    rw [Block.nodes, List.flatMap_map]
    rfl
  rw [hnodes, blocksOf]
  induction document.nodes with
  | nil => cases designTime <;> rfl
  | cons block blocks ih =>
    rw [List.flatMap_cons, ih]
    by_cases hdocument : block.kind = .document
    · simp [lowerBlock, hdocument]
    · rw [lowerBlock_eq source designTime hdocument, List.filter_cons_of_pos (by simpa),
        ← bodyOf_cons]

/-- The only body of a result reports the errors and goes on with the body of the mode. -/
theorem bodies_resultWith (rejection? : Option String) (source : List Char) (designTime : Bool) :
    (resultWith rejection? source designTime).code.bodies =
      [(errorTexts (segment source).errors rejection?).map
        (fun error => Statement.comment ("error: " ++ error)) ++
          bodyOf source designTime (blocksOf (segment source).document)] := by
  rw [← lower_eq]
  rfl

/-! ## The lines of the pragmas -/

/-- The blocks beside the document are those inside it. -/
theorem mem_blocksOf_segment {source : List Char} {block : Block}
    (h : block ∈ blocksOf (segment source).document) :
    block ∈ Block.nodesAll (segment source).document.children := by
  obtain ⟨hnode, hkind⟩ := List.mem_filter.mp h
  rw [Block.nodes_eq] at hnode
  rcases List.mem_cons.mp hnode with rfl | hinside
  · cases of_decide_eq_true hkind rfl
  · exact hinside

/-- The pragma of a block names the line that the block begins on. -/
theorem line_of_mem_blocksOf {source : List Char} {block : Block}
    (h : block ∈ blocksOf (segment source).document) :
    ∃ before rest, source = before ++ rest ∧ byteLength before = block.span.start ∧
      lineAt source block.span.start = 1 + before.count '\n' := by
  obtain ⟨-, hblocks⟩ := segment_madeOf source
  obtain ⟨chars, hslice⟩ := isSlice_of_mem_nodesAll hblocks (mem_blocksOf_segment h)
  rw [flatMap_chars_pieces] at hslice
  obtain ⟨before, after, rfl, hstart, -⟩ := hslice
  refine ⟨before, chars ++ after, List.append_assoc .., hstart, ?_⟩
  rw [List.append_assoc, ← hstart]
  exact lineAt_byteLength before _

/-- Blocks begin one after another. -/
theorem pairwise_start_nodesAll (source : List Char) :
    (Block.nodesAll (segment source).document.children).Pairwise fun block later =>
      block.span.start < later.span.start := by
  obtain ⟨-, hblocks⟩ := segment_madeOf source
  have hlexes := (lexes_iff (pieces source) source).mpr rfl
  have hoffsets : ((located 0 (pieces source)).map Prod.fst).Pairwise (· < ·) :=
    List.pairwise_map.mpr (hlexes.lexed.pairwise_located 0)
  rw [← map_start_eq hblocks] at hoffsets
  exact List.pairwise_map.mp hoffsets

/-- The lines of the pragmas do not run backwards. -/
theorem pairwise_lineAt_blocksOf (source : List Char) :
    (blocksOf (segment source).document).Pairwise fun block later =>
      lineAt source block.span.start ≤ lineAt source later.span.start := by
  have hnodes : blocksOf (segment source).document =
      (Block.nodesAll (segment source).document.children).filter fun block =>
        block.kind ≠ .document := by
    rw [blocksOf, Block.nodes_eq, List.filter_cons_of_neg]
    rw [decide_eq_true_eq, not_not]
    rfl
  rw [hnodes]
  refine ((pairwise_start_nodesAll source).filter _).imp fun h => ?_
  exact lineAt_mono source (Nat.le_of_lt h)

/-! ## The answers to two hosts -/

/-- A host that names a language of the engine. -/
def Admits (host : Host) : Prop :=
  ∃ language, host.language = some language ∧ descriptor.supports language = true

/-- The texts of the errors of a template, given the verdict on it: the faults of the nesting in
order, and then why it was rejected. -/
def errorsOf (verdict : Verdict) (source : List Char) : List String :=
  (segment source).errors.map NestingError.message ++
    match verdict with
    | .rejected message => [message]
    | .accepted | .panicked _ => []

/-- What a template compiles to in a mode, given the verdict on it. -/
structure Compiled (verdict : Verdict) (source : List Char) (designTime : Bool)
    (result : GenerationResult) : Prop where
  /-- The tree is that of the template. -/
  document : result.document = (segment source).document
  /-- It succeeds if neither the nesting nor the verdict objects. -/
  success : result.success = true ↔ (segment source).errors = [] ∧ verdict = .accepted
  /-- The errors come first, each as a comment, and then the body of the mode. -/
  code : result.code = unitOf
    ((errorsOf verdict source).map (fun error => Statement.comment ("error: " ++ error)) ++
      bodyOf source designTime (blocksOf (segment source).document))

/-- An answer that carries the text of a rejection is what the template compiles to. -/
theorem compiled_resultWith {verdict : Verdict} {rejection? : Option String} {source : List Char}
    (htexts : errorTexts (segment source).errors rejection? = errorsOf verdict source)
    (hrejection : rejection? = none ↔ verdict = .accepted) (designTime : Bool) :
    Compiled verdict source designTime (resultWith rejection? source designTime) where
  document := rfl
  success := by
    rw [← hrejection]
    cases rejection? <;> simp [resultWith, errorTexts]
  code := by simp only [resultWith, htexts, lower_eq]

/-- A host that the engine admits passes its check. -/
theorem requireSupported_of_admits {host : Host} (h : Admits host) :
    ∃ language, host.requireSupported descriptor.languages = .ok language := by
  obtain ⟨language, hlanguage, hsupports⟩ := h
  refine ⟨language, ?_⟩
  have hsupports : descriptor.languages.any language.same = true := hsupports
  simp [Host.requireSupported, Host.requireLanguage, hlanguage, hsupports, bind, Except.bind]

/-- A blank template is declined. -/
theorem generate_of_blank {host : Host} (h : Admits host) (check : List Char → Verdict)
    {source : String} (hblank : source.toList.all isBlank = true) :
    generate check source host = .declined := by
  obtain ⟨language, hlanguage⟩ := requireSupported_of_admits h
  simp only [generate, hlanguage, hblank, if_true]

/-- The engine breaks down with the check of a template. -/
theorem generate_of_panicked {host : Host} (h : Admits host) {check : List Char → Verdict}
    {source : String} (hblank : source.toList.all isBlank = false) {message : String}
    (hverdict : check source.toList = .panicked message) :
    generate check source host = .panicked (some message) := by
  obtain ⟨language, hlanguage⟩ := requireSupported_of_admits h
  simp only [generate, hlanguage, hblank, Bool.false_eq_true, if_false, hverdict]

/-- Any other template is compiled. -/
theorem generate_of_verdict {host : Host} (h : Admits host) {check : List Char → Verdict}
    {source : String} (hblank : source.toList.all isBlank = false)
    (hverdict : ∀ message, check source.toList ≠ .panicked message) :
    ∃ result, generate check source host = .result result ∧
      Compiled (check source.toList) source.toList host.designTime result := by
  obtain ⟨language, hlanguage⟩ := requireSupported_of_admits h
  simp only [generate, hlanguage, hblank, Bool.false_eq_true, if_false]
  cases hcase : check source.toList with
  | accepted => exact ⟨_, rfl, compiled_resultWith (by simp [errorTexts, errorsOf]) (by simp) _⟩
  | rejected message =>
    exact ⟨_, rfl, compiled_resultWith (by simp [errorTexts, errorsOf]) (by simp) _⟩
  | panicked message => exact absurd hcase (hverdict message)

/-- Exactly blank templates are declined. -/
theorem generate_eq_declined_iff {host : Host} (h : Admits host)
    (check : List Char → Verdict) (source : String) :
    generate check source host = .declined ↔ source.toList.all isBlank = true := by
  refine ⟨fun hdeclined => ?_, generate_of_blank h check⟩
  by_contra hblank
  have hblank := eq_false_of_ne_true hblank
  by_cases hpanic : ∃ message, check source.toList = .panicked message
  · obtain ⟨message, hverdict⟩ := hpanic
    rw [generate_of_panicked h hblank hverdict] at hdeclined
    cases hdeclined
  · obtain ⟨result, hresult, -⟩ := generate_of_verdict h hblank (not_exists.mp hpanic)
    rw [hresult] at hdeclined
    cases hdeclined

/-- Two answers for one template agree in all but the mode of the body. -/
structure Agree (result other : GenerationResult) (designTime otherDesignTime : Bool) : Prop where
  /-- They have the same tree. -/
  document : result.document = other.document
  /-- They succeed both or neither. -/
  success : result.success = other.success
  /-- In one mode they have the same statements. -/
  code : designTime = otherDesignTime → result.code = other.code

/-- Whatever a template compiles to in two modes agrees. -/
theorem Compiled.agree {verdict : Verdict} {source : List Char} {designTime otherDesignTime : Bool}
    {result other : GenerationResult} (h : Compiled verdict source designTime result)
    (hother : Compiled verdict source otherDesignTime other) :
    Agree result other designTime otherDesignTime where
  document := h.document.trans hother.document.symm
  success := Bool.eq_iff_iff.mpr (h.success.trans hother.success.symm)
  code hmode := by rw [h.code, hother.code, hmode]

/-- Design time and runtime agree. For any check of templates, which may reject them with any texts,
two hosts are answered alike: blank templates are declined, others are compiled to what the mode
asks for, unless the check itself breaks down. Without line pragmas and template comments the body
of design time is that of runtime, and the pragmas count the lines of the template in order. -/
theorem designTime_agrees_runtime (check : List Char → Verdict) (source : String)
    {host other : Host} (hhost : Admits host) (hother : Admits other) :
    (generate check source host = .declined ↔ source.toList.all isBlank = true) ∧
    (generate check source other = .declined ↔ source.toList.all isBlank = true) ∧
    (source.toList.all isBlank = false →
      (∀ message, check source.toList = .panicked message →
        generate check source host = .panicked (some message) ∧
        generate check source other = .panicked (some message)) ∧
      ((∀ message, check source.toList ≠ .panicked message) →
        ∃ result otherResult, generate check source host = .result result ∧
          generate check source other = .result otherResult ∧
          Compiled (check source.toList) source.toList host.designTime result ∧
          Compiled (check source.toList) source.toList other.designTime otherResult ∧
          Agree result otherResult host.designTime other.designTime)) ∧
    erase (designBody source.toList (blocksOf (segment source.toList).document)) =
      runtimeBody (blocksOf (segment source.toList).document) ∧
    (∀ block ∈ blocksOf (segment source.toList).document, ∃ before rest,
      source.toList = before ++ rest ∧ byteLength before = block.span.start ∧
        lineAt source.toList block.span.start = 1 + before.count '\n') ∧
    (blocksOf (segment source.toList).document).Pairwise fun block later =>
      lineAt source.toList block.span.start ≤ lineAt source.toList later.span.start := by
  refine ⟨generate_eq_declined_iff hhost check source,
    generate_eq_declined_iff hother check source, fun hblank => ⟨?_, ?_⟩,
    erase_designBody _ _, fun block hblock => line_of_mem_blocksOf hblock,
    pairwise_lineAt_blocksOf _⟩
  · intro message hverdict
    exact ⟨generate_of_panicked hhost hblank hverdict,
      generate_of_panicked hother hblank hverdict⟩
  · intro hverdict
    obtain ⟨result, hresult, hcompiled⟩ := generate_of_verdict hhost hblank hverdict
    obtain ⟨otherResult, hotherResult, hotherCompiled⟩ :=
      generate_of_verdict hother hblank hverdict
    exact ⟨result, otherResult, hresult, hotherResult, hcompiled, hotherCompiled,
      hcompiled.agree hotherCompiled⟩

/-- A greeting with a comment, in design time for one language and at runtime for another. -/
theorem designTime_agrees_runtime_greeting :
    let source := "Hi\n\x7b\x7b name \x7d\x7d\x7b# end #\x7d"
    let host : Host := ⟨some ⟨"python", "Python"⟩, true⟩
    let other : Host := ⟨some ⟨"rust", "Rust"⟩, false⟩
    ∃ result otherResult,
      generate (fun _ => .accepted) source host = .result result ∧
      generate (fun _ => .accepted) source other = .result otherResult ∧
      Agree result otherResult true false ∧ result.success = true ∧
      result.code.bodies = [[.linePragma 1, .writeLiteral "Hi\n", .linePragma 2,
        .writeExpression "name", .linePragma 2, .comment "end"]] ∧
      otherResult.code.bodies = [[.writeLiteral "Hi\n", .writeExpression "name"]] := by
  intro source host other
  have hhost : Admits host := ⟨⟨"python", "Python"⟩, rfl, by decide +kernel⟩
  have hother : Admits other := ⟨⟨"rust", "Rust"⟩, rfl, by decide +kernel⟩
  have hblank : source.toList.all isBlank = false := by decide +kernel
  obtain ⟨-, -, hcompiles, -⟩ :=
    designTime_agrees_runtime (fun _ => .accepted) source hhost hother
  obtain ⟨result, otherResult, hresult, hotherResult, hcompiled, hotherCompiled, hagree⟩ :=
    (hcompiles hblank).2 (by simp)
  refine ⟨result, otherResult, hresult, hotherResult, hagree, ?_, ?_, ?_⟩
  · exact hcompiled.success.mpr ⟨by decide +kernel, rfl⟩
  · rw [hcompiled.code]
    decide +kernel
  · rw [hotherCompiled.code]
    decide +kernel

end TemplateInspector.Tagged
