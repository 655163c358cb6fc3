import TemplateInspector.Emit.Layout
import TemplateInspector.Proofs.Emit.Literal
import TemplateInspector.Proofs.Engine.Lowering
import TemplateInspector.Proofs.Template.Faults
import TemplateInspector.Template.Validation

/-!
# Comments and lines

A comment is written line by line, so that no text of it follows a line feed without the mark of a
comment. A carriage return that stands within such a line is kept, although it ends the line in most
of the languages: what follows it is no comment any more. This is the only way out of a comment, and
a template leads there only if it has such a carriage return itself.
-/

namespace TemplateInspector

open Text

/-! ## The lines of a statement -/

namespace Dialect

/-- A line pragma is on one line. -/
theorem isPhysicalLine_pragmaLine (dialect : Dialect) (line : Nat) :
    IsPhysicalLine (dialect.pragmaLine line) := by
  cases dialect <;>
    simp only [pragmaLine, comment, commentMark, isPhysicalLine_append, isPhysicalLine_toString] <;>
    decide

/-- The mark of a comment is on one line. -/
theorem isPhysicalLine_commentMark (dialect : Dialect) : IsPhysicalLine dialect.commentMark := by
  cases dialect <;> decide

/-- A line of a comment is the mark and a trimmed line of its text. -/
theorem mem_statementLines_comment {dialect : Dialect} {text line : String} :
    line ∈ dialect.statementLines (.comment text) ↔
      ∃ chars ∈ lineChars text.toList,
        line.toList = dialect.commentMark.toList ++ trimChars chars := by
  have hwritten (chars : List Char) :
      (dialect.comment (trim (String.ofList chars))).toList =
        dialect.commentMark.toList ++ trimChars chars := by
    rw [comment, trim, String.toList_append, String.toList_ofList, String.toList_ofList]
  simp only [statementLines, lines, List.map_map, List.mem_map, Function.comp_apply]
  refine exists_congr fun chars => and_congr_right fun _ => ?_
  rw [← hwritten, String.toList_inj, eq_comm]

/-- No line feed is written into a comment, and every line of it begins with the mark. -/
theorem mark_of_mem_statementLines_comment {dialect : Dialect} {text line : String}
    (h : line ∈ dialect.statementLines (.comment text)) :
    '\n' ∉ line.toList ∧ dialect.commentMark.toList <+: line.toList := by
  obtain ⟨chars, hchars, hline⟩ := mem_statementLines_comment.mp h
  rw [hline]
  refine ⟨fun hmem => ?_, List.prefix_append ..⟩
  rcases List.mem_append.mp hmem with hmark | htrim
  · exact (isPhysicalLine_iff.mp dialect.isPhysicalLine_commentMark).1 hmark
  · exact lineFeed_not_mem_linesAfter List.not_mem_nil _ chars hchars
      ((isInfix_trimChars chars).subset htrim)

/-- The lines of a comment stay whole exactly if no carriage return stands within a line of its
text. -/
theorem isPhysicalLine_statementLines_comment_iff (dialect : Dialect) (text : String) :
    (∀ line ∈ dialect.statementLines (.comment text), IsPhysicalLine line) ↔
      ¬BreaksLine text.toList := by
  have hmark := (isPhysicalLine_iff.mp dialect.isPhysicalLine_commentMark).2
  rw [breaksLine_iff, not_exists]
  simp only [not_and]
  constructor
  · intro hlines chars hchars hmem
    have hline : String.ofList (dialect.commentMark.toList ++ trimChars chars) ∈
        dialect.statementLines (.comment text) :=
      mem_statementLines_comment.mpr ⟨chars, hchars, String.toList_ofList⟩
    refine (isPhysicalLine_iff.mp (hlines _ hline)).2 ?_
    rw [String.toList_ofList]
    exact List.mem_append_right _ hmem
  · intro hchars line hline
    obtain ⟨hfeed, -⟩ := mark_of_mem_statementLines_comment hline
    obtain ⟨chars, hmem, heq⟩ := mem_statementLines_comment.mp hline
    refine isPhysicalLine_iff.mpr ⟨hfeed, ?_⟩
    rw [heq, List.mem_append, not_or]
    exact ⟨hmark, hchars chars hmem⟩

end Dialect

/-! ## The comments of a compiled template -/

namespace Template

/-- The text of a tag is trimmed, and it stands between the delimiters. -/
theorem exists_tagContent_eq (inner : List Char) :
    ∃ cs, tagContent inner = trimChars cs ∧ trimChars cs <:+: inner := by
  have htail (cs : List Char) : (if cs.head? = some '-' then cs.tail else cs) <:+: cs := by
    split
    · exact (List.tail_suffix cs).isInfix
    · exact List.infix_rfl
  have hdropLast (cs : List Char) :
      (if cs.getLast? = some '-' then cs.dropLast else cs) <:+: cs := by
    split
    · exact (List.dropLast_prefix cs).isInfix
    · exact List.infix_rfl
  exact ⟨_, rfl, (isInfix_trimChars _).trans ((hdropLast _).trans (htail inner))⟩

/-- The content of a block that is not markup is trimmed, and it stands in the template. -/
theorem exists_content_of_mem_nodesAll {source : List Char} {block : Block}
    (h : block ∈ Block.nodesAll (segment source).document.children)
    (hmarkup : block.kind ≠ .markup) :
    ∃ cs, block.content.toList = trimChars cs ∧ trimChars cs <:+: source := by
  obtain ⟨-, hblocks⟩ := segment_madeOf source
  obtain ⟨⟨offset, piece⟩, hplace, hdepicts⟩ := exists_place hblocks h
  obtain ⟨before, after, hpieces, -⟩ := mem_located hplace
  have hstands : piece.chars <:+: source := by
    rw [← flatMap_chars_pieces source, hpieces, List.flatMap_append, List.flatMap_cons]
    exact ⟨_, _, (List.append_assoc ..)⟩
  rcases piece with text | ⟨kind, inner, closed⟩
  · rcases hdepicts.kind_eq with heq | ⟨-, hstatement⟩
    · exact absurd heq hmarkup
    · cases hstatement
  · obtain ⟨cs, hcs, hwithin⟩ := exists_tagContent_eq inner
    have hinner : inner <:+: (Piece.tag kind inner closed).chars :=
      ⟨['{', kind.opening], _, rfl⟩
    exact ⟨cs, hdepicts.content_eq.trans hcs, (hwithin.trans hinner).trans hstands⟩

/-- The message of a fault in the nesting is on one line. -/
theorem NestingError.isPhysicalLine_message {source : List Char} {error : NestingError}
    (h : error ∈ (segment source).errors) : IsPhysicalLine error.message := by
  have hkeyword := isPhysicalLine_of_isBlank (isWord_keyword_of_mem_errors h)
  have hjoin {first second third fourth : String} (hfirst : IsPhysicalLine first)
      (hsecond : IsPhysicalLine second) (hthird : IsPhysicalLine third)
      (hfourth : IsPhysicalLine fourth) : IsPhysicalLine (first ++ second ++ third ++ fourth) := by
    simp only [isPhysicalLine_append, hfirst, hsecond, hthird, hfourth, and_self]
  cases error with
  | unclosedTag kind line =>
    refine isPhysicalLine_append.mpr ⟨hjoin ?_ (isPhysicalLine_toString line) ?_ ?_, ?_⟩
    · decide
    · decide
    · cases kind <;> decide
    · decide
  | unexpectedEnd keyword line =>
    exact hjoin (by decide) hkeyword (by decide) (isPhysicalLine_toString line)
  | unclosedSection keyword line =>
    exact hjoin (by decide) hkeyword (by decide) (isPhysicalLine_toString line)

end Template

namespace Tagged

open Template

/-- A carriage return within a line of the comment that stands for a block is one within a line of
the template. -/
theorem breaksLine_of_statementOf {source : List Char} {block : Block} {text : String}
    (hblock : block ∈ blocksOf (segment source).document)
    (htext : statementOf block = .comment text) (h : BreaksLine text.toList) :
    BreaksLine source := by
  have hinside := mem_blocksOf_segment hblock
  by_cases hmarkup : block.kind = .markup
  · simp [statementOf, hmarkup] at htext
  obtain ⟨cs, hcs, hstands⟩ := exists_content_of_mem_nodesAll hinside hmarkup
  refine BreaksLine.of_isInfix ?_ hstands
  have htag : text = "\x7b% " ++ block.content ++ " %\x7d" ∨ text = block.content := by
    rw [statementOf] at htext
    split at htext
    case h_1 | h_2 => cases htext
    case h_3 => exact .inr (Statement.comment.inj htext).symm
    all_goals exact .inl (Statement.comment.inj htext).symm
  rcases htag with rfl | rfl
  · rw [String.toList_append, String.toList_append, hcs] at h
    exact h.of_between (by decide) (by decide)
  · exact hcs ▸ h

/-- A carriage return within a line of a comment of the engine is one within a line of the template
or of the text with which the check rejected it. -/
theorem breaksLine_of_mem_bodies {rejection? : Option String} {source : List Char}
    {designTime : Bool} {body : List Statement}
    (hbody : body ∈ (resultWith rejection? source designTime).code.bodies)
    {text : String} (htext : .comment text ∈ body) (h : BreaksLine text.toList) :
    BreaksLine source ∨ ∃ message ∈ rejection?, BreaksLine ("error: " ++ message).toList := by
  rw [bodies_resultWith, List.mem_singleton] at hbody
  rw [hbody, errorTexts] at htext
  rcases List.mem_append.mp htext with hreported | hblock
  · obtain ⟨error, herror, heq⟩ := List.mem_map.mp hreported
    obtain rfl := Statement.comment.inj heq
    rcases List.mem_append.mp herror with hnesting | hrejection
    · obtain ⟨nestingError, hmem, rfl⟩ := List.mem_map.mp hnesting
      have hline := NestingError.isPhysicalLine_message hmem
      exact absurd h (isPhysicalLine_append.mpr ⟨by decide, hline⟩).not_breaksLine
    · exact .inr ⟨error, Option.mem_toList.mp hrejection, h⟩
  · obtain ⟨block, hmem, heq⟩ := exists_block_of_mem_bodyOf hblock rfl
    exact .inl (breaksLine_of_statementOf hmem heq h)

end Tagged

/-! ## What gets out of comments -/

namespace Dialect

/-- Comments hold what is written into them, but for carriage returns within a line. In every
dialect the lines of literal text and of line pragmas are whole, the lines of a comment begin with
its mark and have no line feed, and they are whole exactly if no carriage return stands within a
line of the text. Then each line that the language sees of them begins with the mark. In what the
engine for tags compiles, such a carriage return stands in a comment only if it stands so in the
template, or in the text with which the check rejected it. -/
theorem comments_hold_text (dialect : Dialect) :
    (∀ text, ∀ line ∈ dialect.statementLines (.writeLiteral text), IsPhysicalLine line) ∧
    (∀ number, ∀ line ∈ dialect.statementLines (.linePragma number), IsPhysicalLine line) ∧
    (∀ text, ∀ line ∈ dialect.statementLines (.comment text),
      '\n' ∉ line.toList ∧ dialect.commentMark.toList <+: line.toList) ∧
    (∀ text, (∀ line ∈ dialect.statementLines (.comment text), IsPhysicalLine line) ↔
      ¬BreaksLine text.toList) ∧
    (∀ text, ¬BreaksLine text.toList → ∀ line ∈ dialect.statementLines (.comment text),
      ∀ physical ∈ physicalLines line.toList, dialect.commentMark.toList <+: physical) ∧
    ∀ rejection? source designTime,
      ∀ body ∈ (Tagged.resultWith rejection? source designTime).code.bodies,
        ∀ text, .comment text ∈ body → BreaksLine text.toList →
          BreaksLine source ∨ ∃ message ∈ rejection?, BreaksLine ("error: " ++ message).toList := by
  refine ⟨fun text line hline => ?_, fun number line hline => ?_,
    fun text line hline => mark_of_mem_statementLines_comment hline,
    dialect.isPhysicalLine_statementLines_comment_iff, fun text htext line hline => ?_,
    fun rejection? source designTime body hbody text htext h =>
      Tagged.breaksLine_of_mem_bodies hbody htext h⟩
  · obtain rfl := List.mem_singleton.mp hline
    exact dialect.isPhysicalLine_literalLine text
  · obtain rfl := List.mem_singleton.mp hline
    exact dialect.isPhysicalLine_pragmaLine number
  · have hwhole := (dialect.isPhysicalLine_statementLines_comment_iff text).mpr htext line hline
    rw [hwhole.physicalLines_eq]
    intro physical hphysical
    obtain rfl := List.mem_singleton.mp hphysical
    exact (mark_of_mem_statementLines_comment hline).2

/-- In a Python file the comments of a template whose carriage returns stand at line ends are
comments. -/
theorem comments_hold_text_lineEnds :
    let source := "\x7b# first \r\n second #\x7d\x7b% include name".toList
    ¬BreaksLine source ∧
    Statement.comment "error: unclosed tag at line 2: expected `%\x7d`" ∈
      (Tagged.resultWith none source true).code.bodies.flatten ∧
    ∀ body ∈ (Tagged.resultWith none source true).code.bodies, ∀ text, .comment text ∈ body →
      ∀ line ∈ python.statementLines (.comment text), ∀ physical ∈ physicalLines line.toList,
        "# ".toList <+: physical := by
  intro source
  have hsource : ¬BreaksLine source := by decide +kernel
  obtain ⟨-, -, -, -, hlines, hengine⟩ := comments_hold_text python
  refine ⟨hsource, by decide +kernel, fun body hbody text htext => hlines text fun h => ?_⟩
  rcases hengine none source true body hbody text htext h with hbreaks | ⟨message, hmessage, -⟩
  · exact hsource hbreaks
  · cases hmessage

/-- A template comment in which a carriage return stands within a line is one line of the Python
file with it, and what follows the carriage return is a line of code. -/
theorem comment_leaks :
    let source := "\x7b# a\rimport os #\x7d"
    let result := Tagged.resultWith none source.toList true
    Tagged.generate (Template.validate fun _ => "") source ⟨some ⟨"python", "Python"⟩, true⟩ =
      .result result ∧
    result.code.bodies = [[.linePragma 1, .comment "a\rimport os"]] ∧
    python.statementLines (.comment "a\rimport os") = ["# a\rimport os"] ∧
    ¬(∀ dialect : Dialect, ∀ text, ∀ line ∈ dialect.statementLines (.comment text),
      '\n' ∉ line.toList ∧ '\r' ∉ line.toList) ∧
    python.bodyIndent ++ "# a\rimport os" ∈ python.unitLines result.code ∧
    "import os".toList ∈ physicalLines (python.bodyIndent ++ "# a\rimport os").toList := by
  refine ⟨by decide +kernel, by decide +kernel, by decide +kernel, fun h => ?_, by decide +kernel,
    by decide +kernel⟩
  have hline : "# a\rimport os" ∈ python.statementLines (.comment "a\rimport os") := by
    decide +kernel
  exact (h python _ _ hline).2 (by decide)

end Dialect

end TemplateInspector
