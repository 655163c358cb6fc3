import Mathlib.Data.List.Infix
import TemplateInspector.Controller.Basic
import TemplateInspector.Engine.Literal
import TemplateInspector.Proofs.Emit.Writing
import TemplateInspector.Proofs.Text.Lines
import TemplateInspector.Proofs.Text.Quoted

/-!
# Literal text from end to end

Literal text is written as the argument of a call on one line of a method body. Whatever the text
is, the line stays one line, a scan of the argument stops at its closing quote, and reading the
escapes gives back the text. So the source that is emitted for a literal template has one line that
makes such a call, and the argument of this call is the template.
-/

namespace TemplateInspector

namespace Dialect

/-- The name of the method that writes literal text. -/
def literalCallee : Dialect → String
  | csharp => "WriteLiteral"
  | python | rust => "write_literal"
  | typescript => "writeLiteral"

/-- What a call that writes literal text begins with, up to the quote that opens its argument. -/
def literalOpening (dialect : Dialect) : String :=
  (match dialect with
    | csharp => ""
    | python | rust => "self."
    | typescript => "this.") ++ dialect.literalCallee ++ "(\""

/-- What follows the quote that closes the argument. -/
def literalClosing : Dialect → String
  | python => ")"
  | csharp | rust | typescript => ");"

/-- The text that a line writes, if it is a call that writes literal text. -/
def readLiteral? (dialect : Dialect) (line : String) : Option String := do
  let call := line.toList.dropWhile fun c => c = ' '
  let argument ← call.dropPrefix? dialect.literalOpening.toList
  let (body, after) ← Text.splitLiteral? argument
  let text ← Text.unescapeChars? body
  if after = dialect.literalClosing.toList then some (String.ofList text) else none

/-- A call that writes literal text, taken apart at the quotes of its argument. -/
theorem toList_literalLine (dialect : Dialect) (text : String) :
    (dialect.literalLine text).toList =
      dialect.literalOpening.toList ++ ((Text.escape text).toList ++ '"' ::
        dialect.literalClosing.toList) := by
  have happend (opening body closing : String) :
      (opening ++ body ++ closing).toList =
        opening.toList ++ (body.toList ++ closing.toList) := by
    rw [String.toList_append, String.toList_append, List.append_assoc]
  cases dialect <;> exact happend _ _ _

/-- The call that writes a text is read back as that text, in any body. -/
theorem readLiteral?_literalLine (dialect : Dialect) (text : String) :
    dialect.readLiteral? (dialect.bodyIndent ++ dialect.literalLine text) = some text := by
  have hcall : ((dialect.bodyIndent ++ dialect.literalLine text).toList.dropWhile
      fun c => c = ' ') = (dialect.literalLine text).toList := by
    rw [String.toList_append, toList_literalLine]
    cases dialect <;> rfl
  have hargument (rest : List Char) :
      (dialect.literalOpening.toList ++ rest).dropPrefix? dialect.literalOpening.toList =
        some rest :=
    List.dropPrefix?_eq_some_iff.mpr ⟨_, rfl, beq_self_eq_true _⟩
  rw [readLiteral?, hcall, toList_literalLine]
  simp only [hargument, (Text.literalBody_escape text).splitLiteral?_append,
    Text.unescapeChars?_escape, Option.bind_eq_bind, Option.bind_some, ite_true,
    String.ofList_toList]

/-- The call that writes a text is on one line, whatever ends a line. -/
theorem isPhysicalLine_literalLine (dialect : Dialect) (text : String) :
    Text.IsPhysicalLine (dialect.literalLine text) := by
  have hbody := (Text.literalBody_escape text).not_mem
  have hescaped : Text.IsPhysicalLine (Text.escape text) := Text.isPhysicalLine_iff.mpr
    ⟨fun hmem => hbody _ hmem (by simp), fun hmem => hbody _ hmem (by simp)⟩
  have hcall {opening closing : String} (hopening : Text.IsPhysicalLine opening)
      (hclosing : Text.IsPhysicalLine closing) :
      Text.IsPhysicalLine (opening ++ Text.escape text ++ closing) :=
    Text.isPhysicalLine_append.mpr ⟨Text.isPhysicalLine_append.mpr ⟨hopening, hescaped⟩, hclosing⟩
  cases dialect <;> exact hcall (by decide) (by decide)

/-- In a body it stays on one line. -/
theorem isLine_literalLine (dialect : Dialect) (text : String) :
    Text.IsLine (dialect.bodyIndent ++ dialect.literalLine text) := by
  have hindent : Text.IsPhysicalLine dialect.bodyIndent := by cases dialect <;> decide
  exact (Text.isPhysicalLine_append.mpr ⟨hindent, dialect.isPhysicalLine_literalLine text⟩).isLine

/-- A text that is written by one line of a file, while no other line mentions the method that
writes literal text. -/
def WrittenOnce (dialect : Dialect) (text file : String) : Prop :=
  ∃ before line after, Text.lines file = before ++ line :: after ∧
    dialect.readLiteral? line = some text ∧
      ∀ other ∈ before ++ after, ¬ dialect.literalCallee.toList <:+: other.toList

end Dialect

/-- The built-in emitters write in the dialect of the language that is asked for. -/
theorem EmitterTable.builtin_render (dialect : Dialect) {language : Language}
    (h : language.id = dialect.languageId) (unit : SourceUnit) :
    builtin.render (some language) unit = .ok (dialect.emit unit) := by
  have hfind : builtin.find? dialect.languageId = some (.ofDialect dialect) := by
    cases dialect <;> rfl
  simp only [render, create, h, hfind]
  rfl

namespace Literal

/-- The languages of the engine have dialects. -/
theorem exists_dialect_of_supports {language : Language} (h : descriptor.supports language) :
    ∃ dialect : Dialect, language.id = dialect.languageId := by
  simp only [EngineDescriptor.supports, descriptor, List.any_cons, List.any_nil, Bool.or_false,
    Bool.or_eq_true, Language.same_iff] at h
  rcases h with hrust | htypescript
  · exact ⟨.rust, hrust⟩
  · exact ⟨.typescript, htypescript⟩

/-- A template that is not empty is compiled for each of the engine's languages. -/
theorem generate_of_ne_empty {source : String} (hsource : source ≠ "") {language : Language}
    (h : descriptor.supports language) (designTime : Bool) :
    generate source ⟨some language, designTime⟩ = .result (resultOf source designTime) := by
  have hsupported : Host.requireSupported ⟨some language, designTime⟩ descriptor.languages =
      .ok language := by
    rw [EngineDescriptor.supports] at h
    simp only [Host.requireSupported, Host.requireLanguage, bind, Except.bind, h, ite_true]
  have hnonempty : source.isEmpty = false := by
    rw [Bool.eq_false_iff]
    exact mt String.isEmpty_iff.mp hsource
  simp only [generate, hsupported, hnonempty, Bool.false_eq_true, ite_false]

/-- The lines that are emitted for a literal template before the one that writes it. -/
def opening (dialect : Dialect) (designTime : Bool) : List String :=
  dialect.heading ++ dialect.typeOpening { name := "LiteralTemplate" } ++
    dialect.methodOpening false "render" ++
    if designTime then [dialect.bodyIndent ++ dialect.pragmaLine 1] else []

/-- The lines that are emitted for a literal template after the one that writes it. -/
def closing (dialect : Dialect) : List String :=
  dialect.methodClosing ++
    dialect.typeClosing { name := "LiteralTemplate", methods := [{ name := "render" }] }

/-- The lines that are emitted for a literal template: one of them writes it. -/
theorem unitLines_resultOf (dialect : Dialect) (source : String) (designTime : Bool) :
    dialect.unitLines (resultOf source designTime).code =
      opening dialect designTime ++ (dialect.bodyIndent ++ dialect.literalLine source) ::
        closing dialect := by
  cases dialect <;> cases designTime <;> rfl

/-- The type is written under its own name. -/
theorem typeName_literalTemplate : Dialect.typeName "LiteralTemplate" = "LiteralTemplate" := by
  decide +kernel

/-- The method is written under its own name, or with a capital. -/
theorem methodName_render (dialect : Dialect) :
    dialect.methodName "render" = if dialect = .csharp then "Render" else "render" := by
  cases dialect <;> decide +kernel

/-- The other lines are lines, and none of them mentions the method that writes literal text. -/
theorem isLine_opening_closing (dialect : Dialect) (designTime : Bool) :
    ∀ line ∈ opening dialect designTime ++ closing dialect,
      Text.IsLine line ∧ ¬ dialect.literalCallee.toList <:+: line.toList := by
  -- The names are known, so that only the lines are left to be looked at.
  simp only [opening, Dialect.typeOpening, typeName_literalTemplate, Dialect.methodOpening,
    methodName_render]
  cases dialect <;> cases designTime <;> decide +kernel

/-- The source that is emitted for a literal template writes the template once. -/
theorem writtenOnce_emit (dialect : Dialect) (source : String) (designTime : Bool) :
    dialect.WrittenOnce source (dialect.emit (resultOf source designTime).code) := by
  have hothers := isLine_opening_closing dialect designTime
  refine ⟨_, _, _, ?_, dialect.readLiteral?_literalLine source, fun line h => (hothers line h).2⟩
  rw [Dialect.emit_eq_join, unitLines_resultOf]
  refine Text.lines_join fun line hline => ?_
  rw [List.mem_append, List.mem_cons, or_left_comm, ← List.mem_append] at hline
  rcases hline with rfl | hother
  · exact dialect.isLine_literalLine source
  · exact (hothers line hother).1

/-- Literal text survives being written. Its escaped form is the body of a string literal with no
raw line feed, carriage return or tab; in each dialect a scan from behind the opening quote stops at
the closing quote; reading the escapes gives back the text, and no other text is written alike. If
the text is a template that is not empty, then in each language of the engine and in both modes the
template is compiled, and the source emitted for it has one line that calls the method that writes
literal text, whose argument is the template. -/
theorem text_survives (text : String) :
    Text.LiteralBody (Text.escape text).toList ∧
    (∀ c ∈ (Text.escape text).toList, c ∉ ['\n', '\r', '\t']) ∧
    (∀ dialect : Dialect,
      (dialect.literalLine text).toList = dialect.literalOpening.toList ++
        ((Text.escape text).toList ++ '"' :: dialect.literalClosing.toList) ∧
      Text.splitLiteral? ((Text.escape text).toList ++ '"' :: dialect.literalClosing.toList) =
        some ((Text.escape text).toList, dialect.literalClosing.toList)) ∧
    Text.unescapeChars? (Text.escape text).toList = some text.toList ∧
    (∀ other, Text.escape other = Text.escape text → other = text) ∧
    (text ≠ "" → ∀ language, descriptor.supports language → ∀ designTime,
      ∃ (dialect : Dialect) (result : GenerationResult) (file : String),
        language.id = dialect.languageId ∧
        generate text ⟨some language, designTime⟩ = .result result ∧
        EmitterTable.builtin.render (some language) result.code = .ok file ∧
        dialect.WrittenOnce text file) := by
  have hbody := Text.literalBody_escape text
  refine ⟨hbody, hbody.not_mem, fun dialect => ?_, Text.unescapeChars?_escape text,
    fun _ h => Text.escape_injective h, ?_⟩
  · exact ⟨dialect.toList_literalLine text, hbody.splitLiteral?_append _⟩
  · intro hnonempty language hlanguage designTime
    obtain ⟨dialect, hdialect⟩ := exists_dialect_of_supports hlanguage
    exact ⟨dialect, resultOf text designTime, _, hdialect,
      generate_of_ne_empty hnonempty hlanguage designTime,
      EmitterTable.builtin_render dialect hdialect _, writtenOnce_emit dialect text designTime⟩

/-- A template of backslashes, quotes and line ends is written once in a TypeScript file. -/
theorem text_survives_typescript :
    ∃ (dialect : Dialect) (result : GenerationResult) (file : String),
      "typescript" = dialect.languageId ∧
      generate "\\\"\r\n);" ⟨some ⟨"typescript", "TypeScript"⟩, true⟩ = .result result ∧
      EmitterTable.builtin.render (some ⟨"typescript", "TypeScript"⟩) result.code = .ok file ∧
      dialect.WrittenOnce "\\\"\r\n);" file := by
  obtain ⟨-, -, -, -, -, hwritten⟩ := text_survives "\\\"\r\n);"
  exact hwritten (by decide) ⟨"typescript", "TypeScript"⟩ (by decide) true

end Literal

end TemplateInspector
