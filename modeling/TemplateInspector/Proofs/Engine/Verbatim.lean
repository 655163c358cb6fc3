import TemplateInspector.Proofs.Engine.Lowering
import TemplateInspector.Proofs.Template.Faults
import TemplateInspector.Template.Validation

/-!
# Text in raw sections

The text of a raw section is read like any other text: only if no tag begins in it, and none begins
with its last character, does it stand in the tree as it is, and is it written as it is. Tags in it
are nested and lowered as if the section were not raw.
-/

namespace TemplateInspector

open Text

namespace Template

/-! ## The reading of a raw section -/

/-- The tag that opens a raw section. -/
def rawTag : Piece :=
  .tag .statement " raw ".toList true

/-- The tag that ends a raw section. -/
def endRawTag : Piece :=
  .tag .statement " endraw ".toList true

/-- The template that is a text in a raw section. -/
def rawSection (text : List Char) : List Char :=
  "\x7b% raw %\x7d".toList ++ text ++ "\x7b% endraw %\x7d".toList

/-- The tree in which a text is the only block of a raw section besides the end tag, and no faults.
-/
def verbatim (text : List Char) : Segmentation :=
  let width := byteLength text
  ⟨⟨.document, ⟨0, 9 + width + 12⟩, "",
    [⟨.region, ⟨0, 9 + width + 12⟩, "raw",
      [⟨.markup, ⟨9, width⟩, String.ofList text, []⟩,
        ⟨.statement, ⟨9 + width, 12⟩, "endraw", []⟩]⟩]⟩, []⟩

/-- No tag begins in a text, nor with its last character if a brace follows. -/
def TagFree (text : List Char) : Prop :=
  (∀ kind : TagKind, ¬['{', kind.opening] <:+: text) ∧ text.getLast? ≠ some '{'

/-- A text is free of tags exactly if it is plain up to a tag behind it. -/
theorem tagFree_iff {text : List Char} : TagFree text ↔ Plain (text ++ ['{']) := by
  rw [TagFree, ← plain_iff, Plain, Plain, List.isChain_append]
  refine and_congr_right fun _ => ?_
  have hopened (c : Char) : TagKind.opened? c '{' = none ↔ c ≠ '{' := by
    by_cases hc : c = '{' <;> simp [TagKind.opened?, hc]
  simp only [List.IsChain.singleton, true_and, List.head?_cons, Option.mem_some_iff, forall_eq',
    hopened]
  exact ⟨fun h c hc heq => h (heq ▸ hc), fun h hlast => h '{' hlast rfl⟩

theorem chars_rawTag : rawTag.chars = "\x7b% raw %\x7d".toList := by decide +kernel

theorem chars_endRawTag : endRawTag.chars = "\x7b% endraw %\x7d".toList := by decide +kernel

/-- The tags around the text of a raw section. -/
theorem rawSection_eq (text : List Char) :
    rawSection text = rawTag.chars ++ (text ++ endRawTag.chars) := by
  rw [chars_rawTag, chars_endRawTag, ← List.append_assoc]
  exact Eq.refl (rawSection text)

/-- The text of a raw section and its end tag are read as if they stood alone. -/
theorem pieces_rawSection_eq (text : List Char) :
    pieces (rawSection text) = rawTag :: pieces (text ++ endRawTag.chars) := by
  rw [rawSection_eq]
  exact pieces_tag_append (by rw [Uncut]; decide) _

/-- A text free of tags is one piece between the tags of its section. -/
theorem pieces_rawSection {text : List Char} (hempty : text ≠ []) (h : TagFree text) :
    pieces (rawSection text) = [rawTag, .markup text, endRawTag] := by
  have hend : Lexed [endRawTag] := .closed (by rw [Uncut]; decide) .nil
  have hread := pieces_of_lexed (.between hempty (tagFree_iff.mp h) hend)
  rw [List.flatMap_cons, List.flatMap_singleton] at hread
  rw [pieces_rawSection_eq]
  exact congrArg (rawTag :: ·) hread

/-- The tree of these pieces. -/
theorem segment_rawSection {text : List Char} (hempty : text ≠ []) (h : TagFree text) :
    segment (rawSection text) = verbatim text := by
  have hwidth : rawTag.width = 9 ∧ endRawTag.width = 12 := by decide
  have hrole : rawTag.role = .opens "raw" ∧ endRawTag.role = .closes "raw" := by decide
  have hcontent : String.ofList rawTag.content = "raw" ∧
      String.ofList endRawTag.content = "endraw" := by decide
  have hlength : byteLength (rawSection text) = 9 + byteLength text + 12 := by
    rw [rawSection_eq, byteLength_append, byteLength_append, ← Nat.add_assoc]
    exact congrArg₂ (· + byteLength text + ·) hwidth.1 hwidth.2
  have hpieces := pieces_rawSection hempty h
  generalize rawSection text = source at hlength hpieces
  have hopens : Nesting.add source {} 0 rawTag =
      ⟨[], [⟨"raw", ⟨.region, ⟨0, 9⟩, "raw", []⟩⟩], []⟩ := by
    rw [Nesting.add_eq, Nesting.nest, hrole.1, hwidth.1, hcontent.1]
    rfl
  have hcloses (root : List Block) (region : OpenSection) (offset : Nat)
      (hregion : region.keyword = "raw") :
      Nesting.add source ⟨root, [region], []⟩ offset endRawTag =
        ⟨root ++ [(region.push ⟨.statement, ⟨offset, 12⟩, "endraw", []⟩).block], [], []⟩ := by
    rw [Nesting.add_eq, Nesting.nest, hrole.2, Piece.leaf, hwidth.2, hcontent.2]
    simp only [Nesting.close, hregion, if_true]
    rfl
  have hmarkup (region : OpenSection) (offset : Nat) :
      Nesting.add source ⟨[], [region], []⟩ offset (.markup text) =
        ⟨[], [region.push ⟨.markup, ⟨offset, byteLength text⟩, String.ofList text, []⟩], []⟩ := rfl
  have hmarkupWidth : (Piece.markup text).width = byteLength text := rfl
  rw [segment, hpieces, hlength]
  simp only [Nesting.addAll, hopens, hmarkup, hwidth, hmarkupWidth, Nat.zero_add]
  rw [hcloses _ _ _ rfl]
  rfl

/-- If the text of a raw section is a block as it is, it is free of tags. -/
theorem tagFree_of_segment_eq {text : List Char} (h : segment (rawSection text) = verbatim text) :
    TagFree text := by
  have hlexed := ((lexes_iff _ (rawSection text)).mpr rfl).lexed
  obtain ⟨-, hblocks⟩ := segment_madeOf (rawSection text)
  generalize pieces (rawSection text) = ps at hlexed hblocks
  rw [h] at hblocks
  -- The section, the text and the end tag are made of the first three pieces.
  rcases ps with _ | ⟨opening, _ | ⟨markup, _ | ⟨closing, others⟩⟩⟩
  · cases hblocks
  · cases (List.forall₂_cons.mp hblocks).2
  · cases (List.forall₂_cons.mp (List.forall₂_cons.mp hblocks).2).2
  · obtain ⟨hmarkup, -⟩ := List.forall₂_cons.mp (List.forall₂_cons.mp hblocks).2
    have hkind : markup.kind = .markup := by
      rcases hmarkup.kind_eq with heq | ⟨hregion, -⟩
      · exact heq.symm
      · cases hregion
    obtain rfl : markup = .markup text := by
      rw [Piece.eq_markup hkind, ← hmarkup.content_eq]
      exact congrArg Piece.markup String.toList_ofList
    cases hlexed.tail with
    | between hempty hplain hothers => exact tagFree_iff.mpr hplain

end Template

namespace Tagged

open Template

/-! ## What a raw section is lowered to -/

/-- The statements for a text that stands in a raw section as it is. -/
def verbatimBody (designTime : Bool) (text : List Char) : List Statement :=
  let opening := Statement.comment "\x7b% raw %\x7d"
  let literal := Statement.writeLiteral (String.ofList text)
  let closing := Statement.comment "\x7b% endraw %\x7d"
  if designTime then
    [.linePragma 1, opening, .linePragma 1, literal, .linePragma (1 + text.count '\n'), closing]
  else [opening, literal, closing]

/-- A text that stands as it is in a raw section is written as it is. -/
theorem bodyOf_verbatim (designTime : Bool) (text : List Char) :
    bodyOf (rawSection text) designTime (blocksOf (verbatim text).document) =
      verbatimBody designTime text := by
  cases designTime with
  | false => rfl
  | true =>
    have hline (before rest : List Char) (h : rawSection text = before ++ rest) :
        lineAt (rawSection text) (byteLength before) = 1 + before.count '\n' :=
      h ▸ lineAt_byteLength before rest
    have hwidth : byteLength rawTag.chars = 9 := by decide
    have hcount : rawTag.chars.count '\n' = 0 := by decide
    have hopening := hline [] (rawSection text) rfl
    have hliteral := hline rawTag.chars (text ++ endRawTag.chars) (rawSection_eq text)
    have hclosing := hline (rawTag.chars ++ text) endRawTag.chars
      ((rawSection_eq text).trans (List.append_assoc ..).symm)
    rw [byteLength_nil, List.count_nil] at hopening
    rw [hwidth, hcount] at hliteral
    rw [byteLength_append, hwidth, List.count_append, hcount, Nat.zero_add] at hclosing
    have hbody : bodyOf (rawSection text) true (blocksOf (verbatim text).document) =
        [.linePragma (lineAt (rawSection text) 0), .comment "\x7b% raw %\x7d",
          .linePragma (lineAt (rawSection text) 9), .writeLiteral (String.ofList text),
          .linePragma (lineAt (rawSection text) (9 + byteLength text)),
          .comment "\x7b% endraw %\x7d"] := rfl
    rw [hbody, hopening, hliteral, hclosing]
    rfl

/-- Expressions are written exactly if the template has tags for them. -/
theorem exists_writeExpression_iff (source : List Char) (designTime : Bool) :
    (∃ expression, .writeExpression expression ∈
      lower source designTime (segment source).document) ↔
      ∃ piece ∈ pieces source, piece.kind = .expression := by
  obtain ⟨-, hblocks⟩ := segment_madeOf source
  have hexpression {block : Block} {place : Nat × Piece} (h : Depicts block place) :
      block.kind = .expression ↔ place.2.kind = .expression := by
    rcases h.kind_eq with heq | ⟨hregion, hstatement⟩
    · rw [heq]
    · simp [hregion, hstatement]
  rw [lower_eq]
  constructor
  · rintro ⟨expression, hmem⟩
    obtain ⟨block, hblock, heq⟩ := exists_block_of_mem_bodyOf hmem rfl
    have hkind : block.kind = .expression := by
      rw [statementOf] at heq
      split at heq
      case h_2 hkind => exact hkind
      all_goals cases heq
    obtain ⟨place, hplace, hdepicts⟩ := exists_place hblocks (mem_blocksOf_segment hblock)
    refine ⟨place.2, ?_, (hexpression hdepicts).mp hkind⟩
    rw [← map_snd_located 0 (pieces source)]
    exact List.mem_map_of_mem hplace
  · rintro ⟨piece, hpiece, hkind⟩
    rw [← map_snd_located 0 (pieces source)] at hpiece
    obtain ⟨place, hplace, rfl⟩ := List.mem_map.mp hpiece
    obtain ⟨block, hblock, hdepicts⟩ := exists_block hblocks hplace
    have hkind := (hexpression hdepicts).mpr hkind
    have hmem : block ∈ blocksOf (segment source).document := by
      refine List.mem_filter.mpr ⟨?_, by simp [hkind]⟩
      rw [Block.nodes_eq]
      exact List.mem_cons_of_mem _ hblock
    have hstatement := statementOf_mem_bodyOf source designTime hmem (by simp [hkind])
    exact ⟨block.content, by simpa only [statementOf, hkind] using hstatement⟩

/-! ## Raw sections -/

/-- A raw section keeps its text exactly if no tag begins in it. For every text that is not empty,
the tree has the text as the only block of the section besides the end tag, and no faults, exactly
if no opening delimiter stands in the text and it does not end in a brace, which with the end tag
would open an expression. Then the text is written as it is. Whatever the text is, an expression is
written exactly if the text, with the end tag behind it, has a tag for one. -/
theorem raw_text_kept_iff {text : List Char} (hempty : text ≠ []) :
    (segment (rawSection text) = verbatim text ↔ TagFree text) ∧
    (TagFree text → ∀ rejection? designTime,
      (resultWith rejection? (rawSection text) designTime).code.bodies =
        [rejection?.toList.map (fun message => .comment ("error: " ++ message)) ++
          verbatimBody designTime text]) ∧
    ∀ designTime, (∃ expression, .writeExpression expression ∈
      lower (rawSection text) designTime (segment (rawSection text)).document) ↔
        ∃ piece ∈ pieces (text ++ "\x7b% endraw %\x7d".toList), piece.kind = .expression := by
  refine ⟨⟨tagFree_of_segment_eq, segment_rawSection hempty⟩, fun htext rejection? designTime => ?_,
    fun designTime => ?_⟩
  · rw [bodies_resultWith, segment_rawSection hempty htext, bodyOf_verbatim, errorTexts]
    simp [verbatim]
  · rw [exists_writeExpression_iff, pieces_rawSection_eq, chars_endRawTag,
      List.exists_mem_cons_iff]
    exact or_iff_right (by decide)

/-- Braces and percent signs that open no tag are kept in a raw section. -/
theorem raw_text_kept_iff_braces :
    let text := "a \x7b b \x7d\x7d %\x7d".toList
    text ≠ [] ∧ TagFree text ∧ segment (rawSection text) = verbatim text ∧
    (resultWith none (rawSection text) false).code.bodies = [[.comment "\x7b% raw %\x7d",
      .writeLiteral "a \x7b b \x7d\x7d %\x7d", .comment "\x7b% endraw %\x7d"]] := by
  intro text
  have hempty : text ≠ [] := by decide
  obtain ⟨hkept, hbodies, -⟩ := raw_text_kept_iff hempty
  have htext : TagFree text := tagFree_iff.mpr (by rw [Plain]; decide)
  refine ⟨hempty, htext, hkept.mpr htext, ?_⟩
  rw [hbodies htext none false]
  decide +kernel

/-- An expression in a raw section is written as an expression, although the check of the template
takes it for text; and the check accepts the start of a section there, which nesting reports. -/
theorem raw_text_evaluated :
    let source := "\x7b% raw %\x7d\x7b\x7b x \x7d\x7d\x7b% endraw %\x7d"
    let result := resultWith none source.toList false
    generate (validate fun _ => "") source ⟨some ⟨"python", "Python"⟩, false⟩ = .result result ∧
    result.code.bodies = [[.comment "\x7b% raw %\x7d", .writeExpression "x",
      .comment "\x7b% endraw %\x7d"]] ∧
    validate (fun _ => "") (rawSection "\x7b% if a %\x7d".toList) = .accepted ∧
    (segment (rawSection "\x7b% if a %\x7d".toList)).errors ≠ [] ∧
    ¬∀ text, text ≠ [] → ¬"\x7b%".toList <:+: text →
      segment (rawSection text) = verbatim text := by
  refine ⟨by decide +kernel, by decide +kernel, by decide +kernel, by decide +kernel, fun h => ?_⟩
  have hkept := h "\x7b\x7b x \x7d\x7d".toList (by decide) (by decide +kernel)
  revert hkept
  decide +kernel

end Tagged

end TemplateInspector
