import Mathlib.Data.List.Basic
import TemplateInspector.Text.Quoted

/-!
# Bodies of string literals

The grammar of what stands between the quotes of a string literal: characters that stand for
themselves, and escape pairs. Neither a quote nor a backslash occurs in it outside of a pair, and no
raw line feed, carriage return or tab occurs at all. An escaped text is such a body; a scan for the
closing quote gives back any body, and reading the escapes gives back the text.
-/

namespace TemplateInspector.Text

/-- The body of a string literal. -/
inductive LiteralBody : List Char → Prop
  /-- The empty body. -/
  | nil : LiteralBody []
  /-- A character that stands for itself. -/
  | plain {c : Char} {rest : List Char} (hplain : c ∉ ['\\', '"', '\n', '\r', '\t'])
      (hrest : LiteralBody rest) : LiteralBody (c :: rest)
  /-- A backslash and a letter or character that stand for a character. -/
  | pair {letter c : Char} {rest : List Char} (hpair : escapedChar? letter = some c)
      (hrest : LiteralBody rest) : LiteralBody ('\\' :: letter :: rest)

/-- A character is written as itself, or as a backslash and what stands for it. -/
theorem escapeChar_cases (c : Char) :
    c ∉ ['\\', '"', '\n', '\r', '\t'] ∧ escapeChar c = [c] ∨
      ∃ letter, escapedChar? letter = some c ∧ escapeChar c = ['\\', letter] := by
  by_cases hmem : c ∈ ['\\', '"', '\n', '\r', '\t']
  · right
    simp only [List.mem_cons, List.not_mem_nil, or_false] at hmem
    rcases hmem with rfl | rfl | rfl | rfl | rfl
    · exact ⟨'\\', rfl, rfl⟩
    · exact ⟨'"', rfl, rfl⟩
    · exact ⟨'n', rfl, rfl⟩
    · exact ⟨'r', rfl, rfl⟩
    · exact ⟨'t', rfl, rfl⟩
  · refine .inl ⟨hmem, ?_⟩
    simp only [List.mem_cons, List.not_mem_nil, or_false, not_or] at hmem
    simp only [escapeChar, hmem, ite_false]

/-- An escaped text is the body of a string literal. -/
theorem literalBody_escapeChars (cs : List Char) : LiteralBody (escapeChars cs) := by
  induction cs with
  | nil => exact .nil
  | cons c cs ih =>
    rw [escapeChars, List.flatMap_cons, ← escapeChars]
    rcases escapeChar_cases c with ⟨hplain, hwritten⟩ | ⟨letter, hpair, hwritten⟩
    · rw [hwritten]
      exact .plain hplain ih
    · rw [hwritten]
      exact .pair hpair ih

/-- What follows the backslash of an escape pair is no line feed, carriage return or tab. -/
theorem not_mem_of_escapedChar? {letter c : Char} (h : escapedChar? letter = some c) :
    letter ∉ ['\n', '\r', '\t'] := by
  intro hmem
  simp only [List.mem_cons, List.not_mem_nil, or_false] at hmem
  rcases hmem with rfl | rfl | rfl <;> contradiction

/-- No raw line feed, carriage return or tab stands in the body of a string literal. -/
theorem LiteralBody.not_mem {body : List Char} (h : LiteralBody body) :
    ∀ c ∈ body, c ∉ ['\n', '\r', '\t'] := by
  induction h with
  | nil => simp
  | plain hplain _ ih =>
    intro c hc
    rcases List.mem_cons.mp hc with rfl | hc
    · exact fun hraw => hplain (List.mem_cons_of_mem _ (List.mem_cons_of_mem _ hraw))
    · exact ih c hc
  | pair hpair _ ih =>
    intro c hc
    rcases List.mem_cons.mp hc with rfl | hc
    · decide
    rcases List.mem_cons.mp hc with rfl | hc
    · exact not_mem_of_escapedChar? hpair
    · exact ih c hc

/-- A scan from behind the opening quote stops at the quote that closes the literal. -/
theorem LiteralBody.splitLiteral?_append {body : List Char} (h : LiteralBody body)
    (after : List Char) : splitLiteral? (body ++ '"' :: after) = some (body, after) := by
  induction h with
  | nil => rfl
  | @plain c rest hplain _ ih =>
    simp only [List.mem_cons, not_or] at hplain
    obtain ⟨hbackslash, hquote, -⟩ := hplain
    -- The scan looks at a character together with the one behind it.
    obtain ⟨d, others, hrest⟩ := List.exists_cons_of_ne_nil (l := rest ++ '"' :: after) (by simp)
    rw [List.cons_append, hrest]
    rw [hrest] at ih
    simp [splitLiteral?, hbackslash, ih]
  | pair _ _ ih => simp [splitLiteral?, ih]

/-- The characters of an escaped text are those of the text, escaped. -/
theorem toList_escape (text : String) : (escape text).toList = escapeChars text.toList :=
  String.toList_ofList

/-- The written form of a text between double quotes is the body of a string literal. -/
theorem literalBody_escape (text : String) : LiteralBody (escape text).toList :=
  toList_escape text ▸ literalBody_escapeChars text.toList

/-- What is written between double quotes is read back. -/
theorem unescapeChars?_escape (text : String) :
    unescapeChars? (escape text).toList = some text.toList := by
  rw [toList_escape, unescapeChars?_escapeChars]

/-- Different texts have different written forms. -/
theorem escape_injective : Function.Injective escape := by
  intro a b h
  have hread : unescapeChars? (escape a).toList = unescapeChars? (escape b).toList := by rw [h]
  rw [unescapeChars?_escape, unescapeChars?_escape, Option.some.injEq] at hread
  exact String.toList_inj.mp hread

end TemplateInspector.Text
