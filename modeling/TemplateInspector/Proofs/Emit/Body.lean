import Mathlib.Data.List.TakeWhile
import TemplateInspector.Emit.Dialect
import TemplateInspector.Proofs.Engine.Lowering
import TemplateInspector.Proofs.Text.Lines
import TemplateInspector.Template.Validation

/-!
# Bodies that run

A Python body needs a line that is more than a remark. Literal text, expressions and code give such
lines, comments and line pragmas do not, and the placeholder stands in only for a body without any
line. So a body of nothing but remarks has no line that runs. The templates whose bodies are such
are those with tags that act, or with faults, or in design time with comments, but without markup
and without expressions.
-/

namespace TemplateInspector

open Text

/-! ## Lines and statements -/

namespace Text

/-- Whether a line of Python holds nothing but a remark. -/
def isRemark (line : String) : Bool :=
  (dropBlanks line.toList).head? = some '#'

/-- Whether a line of Python is a statement that runs: it is neither blank nor a remark. -/
def runs (line : String) : Bool :=
  !isBlankText line && !isRemark line

/-- A line runs exactly if its first character that is not blank begins no remark. -/
theorem runs_iff {line : String} :
    runs line = true ↔ ∃ c, (dropBlanks line.toList).head? = some c ∧ c ≠ '#' := by
  have hblank : line.toList.all isBlank = true ↔ dropBlanks line.toList = [] := by
    rw [List.all_eq_true, dropBlanks, List.dropWhile_eq_nil_iff]
  rw [runs, isRemark, isBlankText]
  cases hrest : dropBlanks line.toList with
  | nil => simp [hblank.mpr hrest]
  | cons c rest =>
    have hnot : line.toList.all isBlank = false := by
      rw [← Bool.not_eq_true, hblank, hrest]
      exact List.cons_ne_nil c rest
    simp [hnot]

/-- A line that begins like one that runs does so, too. -/
theorem runs_append {line : String} (h : runs line = true) (more : String) :
    runs (line ++ more) = true := by
  obtain ⟨c, hhead, hmark⟩ := runs_iff.mp h
  refine runs_iff.mpr ⟨c, head?_dropBlanks_of_isPrefix ?_ hhead, hmark⟩
  rw [String.toList_append]
  exact List.prefix_append ..

end Text

/-- Whether a statement does something when it is reached. -/
def Statement.acts : Statement → Bool
  | .writeLiteral _ | .writeExpression _ => true
  | .code text => !isBlankText text
  | .comment _ | .linePragma _ => false

/-- Whether a statement is written as no line at all. -/
def Statement.isSilent : Statement → Bool
  | .code text => isBlankText text
  | .comment text => text = ""
  | .writeLiteral _ | .writeExpression _ | .linePragma _ => false

namespace Dialect

/-- In every dialect, blank code and the empty comment are the statements without lines. -/
theorem statementLines_eq_nil_iff (dialect : Dialect) (statement : Statement) :
    dialect.statementLines statement = [] ↔ statement.isSilent = true := by
  cases statement with
  | writeLiteral text => simp [statementLines, Statement.isSilent]
  | writeExpression expression => simp [statementLines, Statement.isSilent]
  | code text =>
    rw [Statement.isSilent, isBlankText_iff_lines]
    simp [statementLines, isBlankText_trimEnd]
  | comment text => simp [statementLines, Statement.isSilent, lines_eq_nil_iff]
  | linePragma line => simp [statementLines, Statement.isSilent]

/-- No line of a remark runs. -/
theorem runs_comment (text : String) : runs (python.comment text) = false := by
  have hmark : isRemark (python.comment text) = true := by
    rw [isRemark, comment, String.toList_append]
    rfl
  rw [runs, hmark, Bool.not_true, Bool.and_false]

/-- Code without remarks gives lines that run. -/
theorem runs_of_mem_statementLines_code {text line : String}
    (h : ∀ other ∈ lines text, isRemark other = false)
    (hline : line ∈ python.statementLines (.code text)) : runs line = true := by
  obtain ⟨hmem, hblank⟩ := List.mem_filter.mp hline
  obtain ⟨other, hother, rfl⟩ := List.mem_map.mp hmem
  -- Trailing blanks are gone, but the line begins as it did.
  rw [runs, hblank, Bool.true_and, Bool.not_eq_true', ← Bool.not_eq_true]
  intro htrimmed
  have hhead : (dropBlanks (dropBlanksEnd other.toList)).head? = some '#' := by
    simpa [isRemark, trimEnd] using htrimmed
  have hremark : isRemark other = true :=
    decide_eq_true (head?_dropBlanks_of_isPrefix (isPrefix_dropBlanksEnd _) hhead)
  exact Bool.noConfusion ((h other hother).symm.trans hremark)

/-- A statement gives a line that runs exactly if it does something. -/
theorem exists_runs_statementLines_iff {statement : Statement}
    (h : ∀ text, statement = .code text → ∀ line ∈ lines text, isRemark line = false) :
    (∃ line ∈ python.statementLines statement, runs line = true) ↔ statement.acts = true := by
  cases statement with
  | writeLiteral text =>
    refine iff_of_true ⟨_, List.mem_singleton_self _, ?_⟩ rfl
    exact runs_append (runs_append (by decide) _) _
  | writeExpression expression =>
    refine iff_of_true ⟨_, List.mem_singleton_self _, ?_⟩ rfl
    exact runs_append (runs_append (by decide) _) _
  | code text =>
    have hruns (line : String) (hline : line ∈ python.statementLines (.code text)) :=
      runs_of_mem_statementLines_code (h text rfl) hline
    have hsome : (∃ line, line ∈ python.statementLines (.code text)) ↔
        ¬isBlankText text = true := by
      rw [← List.isEmpty_eq_false_iff_exists_mem, ← Bool.not_eq_true, List.isEmpty_iff]
      exact not_congr (statementLines_eq_nil_iff python (.code text))
    rw [Statement.acts, Bool.not_eq_true', ← Bool.not_eq_true, ← hsome]
    exact exists_congr fun line => and_iff_left_of_imp (hruns line)
  | comment text =>
    refine iff_of_false ?_ (by simp [Statement.acts])
    rintro ⟨line, hline, hruns⟩
    obtain ⟨other, -, rfl⟩ := List.mem_map.mp hline
    exact Bool.noConfusion ((runs_comment _).symm.trans hruns)
  | linePragma line =>
    refine iff_of_false ?_ (by simp [Statement.acts])
    rintro ⟨line, hline, hruns⟩
    obtain rfl := List.mem_singleton.mp hline
    exact Bool.noConfusion ((runs_comment _).symm.trans hruns)

/-- A Python body has lines, whatever it is made of. -/
theorem bodyLines_python_ne_nil (statements : List Statement) :
    python.bodyLines statements ≠ [] := by
  rw [bodyLines]
  split
  case isTrue => exact List.cons_ne_nil _ _
  case isFalse hsome => exact fun hnone => hsome (List.isEmpty_iff.mpr hnone)

/-- A Python body without code that remarks has a line that runs exactly if one of its statements
does something, or if none of them is written. -/
theorem exists_runs_bodyLines_iff {statements : List Statement}
    (h : ∀ text, .code text ∈ statements → ∀ line ∈ lines text, isRemark line = false) :
    (∃ line ∈ python.bodyLines statements, runs line = true) ↔
      (∃ statement ∈ statements, statement.acts = true) ∨
        ∀ statement ∈ statements, statement.isSilent = true := by
  have hacts : (∃ line ∈ statements.flatMap python.statementLines, runs line = true) ↔
      ∃ statement ∈ statements, statement.acts = true := by
    constructor
    · rintro ⟨line, hline, hruns⟩
      obtain ⟨statement, hmem, hline⟩ := List.mem_flatMap.mp hline
      exact ⟨statement, hmem,
        (exists_runs_statementLines_iff fun text heq => h text (heq ▸ hmem)).mp
          ⟨line, hline, hruns⟩⟩
    · rintro ⟨statement, hmem, hacts⟩
      obtain ⟨line, hline, hruns⟩ :=
        (exists_runs_statementLines_iff fun text heq => h text (heq ▸ hmem)).mpr hacts
      exact ⟨line, List.mem_flatMap.mpr ⟨statement, hmem, hline⟩, hruns⟩
  have hsilent : statements.flatMap python.statementLines = [] ↔
      ∀ statement ∈ statements, statement.isSilent = true := by
    simp only [List.flatMap_eq_nil_iff, statementLines_eq_nil_iff]
  simp only [bodyLines, List.isEmpty_iff]
  split
  case isTrue hnone =>
    exact iff_of_true ⟨"pass", List.mem_singleton_self _, by decide⟩ (.inr (hsilent.mp hnone))
  case isFalse hsome => rw [hacts, or_iff_left (mt hsilent.mpr hsome)]

end Dialect

/-! ## The bodies of compiled templates -/

namespace Tagged

open Template

/-- Markup and expressions are what statements are lowered to that do something. -/
theorem acts_statementOf_iff (block : Block) :
    (statementOf block).acts = true ↔ block.kind = .markup ∨ block.kind = .expression := by
  rw [statementOf]
  cases block.kind <;> simp [Statement.acts]

/-- So a body does something exactly if it is that of some markup or expression. -/
theorem exists_acts_bodyOf_iff (source : List Char) (designTime : Bool) (blocks : List Block) :
    (∃ statement ∈ bodyOf source designTime blocks, statement.acts = true) ↔
      ∃ block ∈ blocks, block.kind = .markup ∨ block.kind = .expression := by
  constructor
  · rintro ⟨statement, hmem, hacts⟩
    have hpragma : isPragma statement = false := by
      cases statement with
      | linePragma line => cases hacts
      | _ => rfl
    obtain ⟨block, hblock, rfl⟩ := exists_block_of_mem_bodyOf hmem hpragma
    exact ⟨block, hblock, (acts_statementOf_iff block).mp hacts⟩
  · rintro ⟨block, hblock, hkind⟩
    have hcomment : block.kind ≠ .comment := by rcases hkind with hkind | hkind <;> simp [hkind]
    exact ⟨_, statementOf_mem_bodyOf source designTime hblock hcomment,
      (acts_statementOf_iff block).mpr hkind⟩

/-- Only the statements of template comments can be written as nothing. -/
theorem isSilent_statementOf {block : Block} (h : block.kind ≠ .comment) :
    (statementOf block).isSilent = false := by
  rw [statementOf]
  split
  case h_3 hkind => exact absurd hkind h
  all_goals simp [Statement.isSilent]

/-- A body with statements has one that is written. -/
theorem exists_not_isSilent_of_ne_nil {source : List Char} {designTime : Bool}
    {blocks : List Block} (h : bodyOf source designTime blocks ≠ []) :
    ∃ statement ∈ bodyOf source designTime blocks, statement.isSilent = false := by
  cases designTime with
  | false =>
    obtain ⟨statement, hmem⟩ := List.exists_mem_of_ne_nil _ h
    obtain ⟨block, hblock, rfl⟩ := List.mem_map.mp hmem
    exact ⟨_, hmem, isSilent_statementOf (of_decide_eq_true (List.mem_filter.mp hblock).2)⟩
  | true =>
    -- The pragma of the first block is written.
    cases blocks with
    | nil => exact absurd rfl h
    | cons block others => exact ⟨_, List.mem_cons_self, rfl⟩

/-- The body of a template has a Python line that runs exactly if the template has markup or
expressions, or if there is nothing in the body. -/
theorem exists_runs_of_mem_bodies_iff {rejection? : Option String} {source : List Char}
    {designTime : Bool} {body : List Statement}
    (hbody : body ∈ (resultWith rejection? source designTime).code.bodies) :
    (∃ line ∈ Dialect.python.bodyLines body, runs line = true) ↔
      (∃ block ∈ blocksOf (segment source).document,
        block.kind = .markup ∨ block.kind = .expression) ∨ body = [] := by
  rw [bodies_resultWith, List.mem_singleton] at hbody
  have hmem (statement : Statement) : statement ∈ body ↔
      (∃ error ∈ errorTexts (segment source).errors rejection?,
        Statement.comment ("error: " ++ error) = statement) ∨
      statement ∈ bodyOf source designTime (blocksOf (segment source).document) := by
    rw [hbody, List.mem_append, List.mem_map]
  have hcode (text : String) : .code text ∉ body := by
    rw [hmem]
    rintro (⟨error, -, heq⟩ | hblock)
    · cases heq
    · obtain ⟨block, -, heq⟩ := exists_block_of_mem_bodyOf hblock rfl
      rw [statementOf] at heq
      split at heq <;> cases heq
  have hacts : (∃ statement ∈ body, statement.acts = true) ↔
      ∃ statement ∈ bodyOf source designTime (blocksOf (segment source).document),
        statement.acts = true := by
    refine exists_congr fun statement => and_congr_left fun hacts => ?_
    rw [hmem]
    refine or_iff_right ?_
    rintro ⟨error, -, rfl⟩
    cases hacts
  have hsilent : (∀ statement ∈ body, statement.isSilent = true) ↔ body = [] := by
    constructor
    · intro hall
      have herrors : errorTexts (segment source).errors rejection? = [] := by
        refine List.eq_nil_iff_forall_not_mem.mpr fun error herror => ?_
        have hsilent := hall _ ((hmem _).mpr (.inl ⟨error, herror, rfl⟩))
        simp [Statement.isSilent] at hsilent
      have hblocks : bodyOf source designTime (blocksOf (segment source).document) = [] := by
        by_contra hsome
        obtain ⟨statement, hstatement, hwritten⟩ := exists_not_isSilent_of_ne_nil hsome
        exact Bool.noConfusion (hwritten.symm.trans (hall _ ((hmem _).mpr (.inr hstatement))))
      rw [hbody, herrors, hblocks]
      rfl
    · rintro rfl statement hstatement
      cases hstatement
  rw [Dialect.exists_runs_bodyLines_iff fun text htext => absurd htext (hcode text), hacts,
    exists_acts_bodyOf_iff, hsilent]

end Tagged

/-! ## Which bodies run -/

namespace Dialect

/-- Remarks are not enough for a Python body. A body always has lines; if no code in it remarks, it
has a line that runs exactly if one of its statements is literal text, an expression or code that is
not blank, or if no statement is written and the placeholder stands for them. If it is the body of a
template, this is so exactly if the template has markup or expressions, or if the body is empty. -/
theorem bodies_run_unless_remarks {statements : List Statement}
    (h : ∀ text, .code text ∈ statements → ∀ line ∈ lines text, isRemark line = false) :
    python.bodyLines statements ≠ [] ∧
    ((∃ line ∈ python.bodyLines statements, runs line = true) ↔
      (∃ statement ∈ statements, statement.acts = true) ∨
        ∀ statement ∈ statements, statement.isSilent = true) ∧
    ∀ rejection? source designTime,
      statements ∈ (Tagged.resultWith rejection? source designTime).code.bodies →
        ((∃ line ∈ python.bodyLines statements, runs line = true) ↔
          (∃ block ∈ Tagged.blocksOf (Template.segment source).document,
            block.kind = .markup ∨ block.kind = .expression) ∨ statements = []) :=
  ⟨bodyLines_python_ne_nil statements, exists_runs_bodyLines_iff h,
    fun _ _ _ hbody => Tagged.exists_runs_of_mem_bodies_iff hbody⟩

/-- A body of a pragma and of code with a remark behind a statement runs, and so does that of a
template in which a tag precedes an expression. -/
theorem bodies_run_unless_remarks_mixed :
    let code : List Statement := [.linePragma 1, .code "if a:\n\n  b()  # why"]
    let source := "\x7b% set x = 1 %\x7d\x7b\x7b x \x7d\x7d".toList
    let body : List Statement := [.linePragma 1, .comment "\x7b% set x = 1 %\x7d", .linePragma 1,
      .writeExpression "x"]
    (∃ line ∈ python.bodyLines code, runs line = true) ∧
      body ∈ (Tagged.resultWith none source true).code.bodies ∧
      ∃ line ∈ python.bodyLines body, runs line = true := by
  intro code source body
  have hcode (text : String) (htext : .code text ∈ code) :
      ∀ line ∈ lines text, isRemark line = false := by
    obtain rfl : text = "if a:\n\n  b()  # why" := by simpa [code] using htext
    decide +kernel
  have hbody : body ∈ (Tagged.resultWith none source true).code.bodies := by decide +kernel
  have htags (text : String) (htext : .code text ∈ body) :
      ∀ line ∈ lines text, isRemark line = false := by
    simp [body] at htext
  obtain ⟨-, hruns, -⟩ := bodies_run_unless_remarks hcode
  obtain ⟨-, -, htemplates⟩ := bodies_run_unless_remarks htags
  exact ⟨hruns.mpr (.inl ⟨_, List.mem_cons_of_mem _ List.mem_cons_self, by decide⟩), hbody,
    (htemplates none source true hbody).mpr (.inl (by decide +kernel))⟩

/-- The body of a template that is one tag is one remark, and nothing runs in it. -/
theorem remarks_do_not_run :
    let source := "\x7b% set x = 1 %\x7d"
    let result := Tagged.resultWith none source.toList false
    Tagged.generate (Template.validate fun _ => "") source ⟨some ⟨"python", "Python"⟩, false⟩ =
      .result result ∧
    result.success = true ∧ result.code.bodies = [[.comment "\x7b% set x = 1 %\x7d"]] ∧
    python.bodyLines [.comment "\x7b% set x = 1 %\x7d"] = ["# \x7b% set x = 1 %\x7d"] ∧
    ¬∀ statements,
      (∀ text, .code text ∈ statements → ∀ line ∈ lines text, isRemark line = false) →
        ∃ line ∈ python.bodyLines statements, runs line = true := by
  have hlines : python.bodyLines [.comment "\x7b% set x = 1 %\x7d"] =
      ["# \x7b% set x = 1 %\x7d"] := by decide +kernel
  refine ⟨by decide +kernel, by decide +kernel, by decide +kernel, hlines, fun h => ?_⟩
  obtain ⟨line, hline, hruns⟩ := h [.comment "\x7b% set x = 1 %\x7d"] (by simp)
  rw [hlines, List.mem_singleton] at hline
  subst hline
  revert hruns
  decide +kernel

end Dialect

end TemplateInspector
