import TemplateInspector.Grammar.Peg

/-!
# The grammar of templates

The rules that a whole template has to match. Expressions are spaced; tags are compact and say where
blanks may stand. What may stand inside of a tag pair depends on the pair: loops allow `break` and
`continue`, macros hold no blocks, and only blocks refer to their parent with `super()`.

The kept rules are those whose matches are looked at afterwards: numbers, arrays in the arguments of
a test, chains of operands and their operands, the constructs that nest, and the names and files
that they mention.
-/

namespace TemplateInspector.Template

open Grammar

/-- The rules of the grammar. -/
inductive Rule
  | int | float | string | boolean
  | opOr | opAnd | opNot | opLessEqual | opGreaterEqual | opLess | opGreater | opEqual | opUnequal
  | nameChar | ident | dottedIdent | indexInt | index | path
  | concatPart | concat | basicVal | basicOp | basicTerm | basicExpr | basicFilter | stringFilter
  | comparisonVal | comparisonOp | comparisonSide | comparison
  | container | inCond | logicVal | logicExpr
  | array | arrayFilter | stringArray
  | kwarg | kwargs | call | filter
  | macroArg | macroArgs | macroSignature | macroCall
  | testArray | testArg | testArgs | testCall | testNot | test
  | variableStart | variableEnd | tagStart | tagEnd | commentStart | commentEnd | anyStart
  | blank | commentText | ignoreMissing
  | includeTag | commentTag | blockTag | blockName | macroTag | macroName | ifTag | elifTag
  | elseTag
  | forTag | filterTag | setTag | setGlobalTag
  | endBlockTag | endMacroTag | endIfTag | endForTag | endFilterTag | breakTag | continueTag
  | variableTag | superTag | plainText | rawTag | endRawTag | rawText | raw
  | filterSection | forLoop | macroIf | blockIf | forIf | filterIf | contentIf
  | block | macroDefinition
  | filterContent | macroContent | blockContent | forContent | content
  | file | extendsTag | importTag | imports | template
  deriving DecidableEq, Repr

namespace Rule

/-- A letter of the basic alphabet or a low line. -/
def startsName (c : Char) : Bool :=
  c.isAlpha || c = '_'

/-- A letter of the basic alphabet, a low line or a digit. -/
def continuesName (c : Char) : Bool :=
  startsName c || c.isDigit

/-- The text between two equal quotes. -/
def quotedBy (quote : Char) : Peg Rule :=
  .all [.text [quote], .many (.seq (.absent (.text [quote])) .any), .text [quote]]

/-- An optional hyphen and a decimal number without leading zeros. -/
def integer : Peg Rule :=
  .seq (.maybe (.lit "-"))
    (.alt (.lit "0") (.seq (.char fun c => '1' ≤ c && c ≤ '9') (.many (.char Char.isDigit))))

/-- Blanks that may stand here. -/
def gap : Peg Rule := .many (.rule blank)

/-- Blanks that have to stand here. -/
def space : Peg Rule := .some (.rule blank)

/-- A tag of the word `name` with the given arguments. -/
def tag (name : String) (arguments : List (Peg Rule)) : Peg Rule :=
  .all ([.rule tagStart, gap, .lit name, space] ++ arguments ++ [gap, .rule tagEnd])

/-- A tag of the word `name` without arguments. -/
def bareTag (name : String) : Peg Rule :=
  .all [.rule tagStart, .lit name, .rule tagEnd]

/-- A tag of the word `name` that may repeat the name of what it ends. -/
def endTag (name : String) : Peg Rule :=
  .all [.rule tagStart, .lit name, .maybe (.rule ident), .rule tagEnd]

/-- A conditional whose branches hold `body`. -/
def conditional (body : Rule) : Peg Rule :=
  .all [.rule ifTag, .many (.rule body), .many (.seq (.rule elifTag) (.many (.rule body))),
    .maybe (.seq (.rule elseTag) (.many (.rule body))), .rule endIfTag]

/-- The value of an assignment or of a named argument. -/
def value : Peg Rule := .one [.rule logicExpr, .rule arrayFilter]

/-- A sequence of `item` with commas between. -/
def separated (item : Peg Rule) : Peg Rule :=
  .seq item (.many (.seq (.lit ",") item))

/-- An array of `item`, in which a comma may follow the last. -/
def arrayOf (item : Peg Rule) : Peg Rule :=
  .all [.lit "[", .many (.seq item (.lit ",")), .maybe item, .lit "]"]

/-- The first of the given rules that matches. -/
def oneOf (rules : List Rule) : Peg Rule := .one (rules.map .rule)

/-- A production that is as spaced as its context. -/
def plain (body : Peg Rule) : Production Rule := ⟨.inherited, false, body⟩

/-- A production without blanks between its parts. -/
def compact (body : Peg Rule) : Production Rule := ⟨.compact, false, body⟩

/-- A production with blanks anywhere between its parts. -/
def spaced (body : Peg Rule) : Production Rule := ⟨.spaced, false, body⟩

/-- A compact production whose matches are kept. -/
def kept (body : Peg Rule) : Production Rule := ⟨.compact, true, body⟩

/-- A production as spaced as its context whose matches are kept. -/
def keptPlain (body : Peg Rule) : Production Rule := ⟨.inherited, true, body⟩

/-- A spaced production whose matches are kept. -/
def keptSpaced (body : Peg Rule) : Production Rule := ⟨.spaced, true, body⟩

/-- What a rule says. -/
def production : Rule → Production Rule
  | int => kept integer
  | float => compact <| .seq (.maybe (.lit "-")) <|
      .alt (.all [.lit "0", .lit ".", .some (.char Char.isDigit)])
        (.all [.char fun c => '1' ≤ c && c ≤ '9', .many (.char Char.isDigit), .lit ".",
          .some (.char Char.isDigit)])
  | string => compact <| .one [quotedBy '"', quotedBy '\'', quotedBy '`']
  | boolean => plain <| .one [.lit "true", .lit "false", .lit "True", .lit "False"]
  | opOr => compact <| .seq (.lit "or") (.rule blank)
  | opAnd => compact <| .seq (.lit "and") (.rule blank)
  | opNot => compact <| .seq (.lit "not") (.rule blank)
  | opLessEqual => plain <| .lit "<="
  | opGreaterEqual => plain <| .lit ">="
  | opLess => plain <| .lit "<"
  | opGreater => plain <| .lit ">"
  | opEqual => plain <| .lit "=="
  | opUnequal => plain <| .lit "!="
  | nameChar => plain <| .char continuesName
  | ident => compact <| .seq (.char startsName) (.many (.rule nameChar))
  | dottedIdent => compact <| .all [.char startsName, .many (.rule nameChar),
      .many (.seq (.lit ".") (.some (.rule nameChar)))]
  | indexInt => compact integer
  | index => compact <| .all [.lit "[", oneOf [indexInt, string, path], .lit "]"]
  | path => compact <| .seq (.rule dottedIdent)
      (.many (.alt (.seq (.lit ".") (.some (.rule nameChar))) (.rule index)))
  | concatPart => plain <| oneOf [call, float, int, string, path]
  | concat => plain <| .seq (.rule concatPart) (.some (.seq (.lit "~") (.rule concatPart)))
  | basicVal => plain <| oneOf [boolean, testNot, test, macroCall, call, path, float, int]
  | basicOp => plain <| .one [.lit "+", .lit "-", .lit "*", .lit "/", .lit "%"]
  | basicTerm => keptPlain <| .alt (.all [.lit "(", .rule basicExpr, .lit ")"]) (.rule basicVal)
  | basicExpr => keptPlain <|
      .seq (.rule basicTerm) (.many (.seq (.rule basicOp) (.rule basicTerm)))
  | basicFilter => keptSpaced <| .seq (.rule basicExpr) (.many (.rule filter))
  | stringFilter => spaced <| .seq (oneOf [concat, string]) (.many (.rule filter))
  | comparisonVal => keptPlain <|
      .seq (.rule basicFilter) (.many (.seq (.rule basicOp) (.rule basicFilter)))
  | comparisonOp => plain <|
      oneOf [opLessEqual, opGreaterEqual, opGreater, opLess, opEqual, opUnequal]
  | comparisonSide => keptPlain <| oneOf [stringFilter, comparisonVal]
  | comparison => keptPlain <|
      .seq (.rule comparisonSide) (.maybe (.seq (.rule comparisonOp) (.rule comparisonSide)))
  | container => plain <| oneOf [stringFilter, arrayFilter, path]
  | inCond => spaced <| .all [oneOf [stringFilter, basicFilter], .maybe (.rule opNot), .lit "in",
      .rule container]
  | logicVal => keptSpaced <| .alt (.seq (.maybe (.rule opNot)) (oneOf [inCond, comparison]))
      (.all [.lit "(", .rule logicExpr, .lit ")"])
  | logicExpr => keptSpaced <|
      .seq (.rule logicVal) (.many (.seq (oneOf [opOr, opAnd]) (.rule logicVal)))
  | array => spaced <| arrayOf (.rule logicVal)
  | arrayFilter => spaced <| .seq (.rule array) (.many (.rule filter))
  | stringArray => spaced <| arrayOf (.rule string)
  | kwarg => plain <| .all [.rule ident, .lit "=", value]
  | kwargs => plain <| .all [.rule kwarg, .many (.seq (.lit ",") (.rule kwarg)), .maybe (.lit ",")]
  | call => spaced <| .all [.rule ident, .lit "(", .maybe (.rule kwargs), .lit ")"]
  | filter => plain <| .seq (.lit "|") (oneOf [call, ident])
  | macroArg => compact <|
      .alt (.all [.rule ident, .lit "=", oneOf [boolean, string, float, int]]) (.rule ident)
  | macroArgs => plain <| separated (.rule macroArg)
  | macroSignature => spaced <|
      .all [.rule macroName, .lit "(", .maybe (.rule macroArgs), .lit ")"]
  | macroCall => plain <| .all [.rule ident, .lit "::", .rule ident, .lit "(",
      .maybe (.rule kwargs), .lit ")"]
  | testArray => keptPlain <| .rule arrayFilter
  | testArg => plain <| oneOf [logicExpr, testArray]
  | testArgs => plain <| separated (.rule testArg)
  | testCall => spaced <|
      .seq (.rule ident) (.maybe (.all [.lit "(", .rule testArgs, .lit ")"]))
  | testNot => plain <| .all [.rule path, .lit "is", .lit "not", .rule testCall]
  | test => plain <| .all [.rule path, .lit "is", .rule testCall]
  | variableStart => plain <| .alt (.lit "\x7b\x7b-") (.lit "\x7b\x7b")
  | variableEnd => plain <| .alt (.lit "-\x7d\x7d") (.lit "\x7d\x7d")
  | tagStart => plain <| .alt (.lit "\x7b%-") (.lit "\x7b%")
  | tagEnd => plain <| .alt (.lit "-%\x7d") (.lit "%\x7d")
  | commentStart => plain <| .alt (.lit "\x7b#-") (.lit "\x7b#")
  | commentEnd => plain <| .alt (.lit "-#\x7d") (.lit "#\x7d")
  | anyStart => plain <| oneOf [variableStart, tagStart, commentStart]
  | blank => compact <| .char fun c => c = ' ' || c = '\t' || c = '\r' || c = '\n'
  | commentText => compact <| .some (.seq (.absent (.rule commentEnd)) .any)
  | ignoreMissing => plain <| .all [.lit "ignore", gap, .lit "missing"]
  | includeTag => compact <| tag "include"
      [oneOf [string, stringArray], gap, .maybe (.rule ignoreMissing)]
  | commentTag => compact <| .all [.rule commentStart, .rule commentText, .rule commentEnd]
  | blockTag => compact <| tag "block" [.rule blockName]
  | blockName => kept <| .rule ident
  | macroTag => compact <| tag "macro" [.rule macroSignature]
  | macroName => kept <| .rule ident
  | ifTag => compact <| tag "if" [.rule logicExpr]
  | elifTag => compact <| tag "elif" [.rule logicExpr]
  | elseTag => spaced <| bareTag "else"
  | forTag => compact <| tag "for" [.rule ident, .maybe (.all [.lit ",", gap, .rule ident]), space,
      .lit "in", space, oneOf [basicFilter, arrayFilter]]
  | filterTag => compact <| tag "filter" [oneOf [call, ident]]
  | setTag => compact <| tag "set" [.rule ident, gap, .lit "=", gap, value]
  | setGlobalTag => compact <| tag "set_global" [.rule ident, gap, .lit "=", gap, value]
  | endBlockTag => spaced <| endTag "endblock"
  | endMacroTag => spaced <| endTag "endmacro"
  | endIfTag => spaced <| bareTag "endif"
  | endForTag => spaced <| bareTag "endfor"
  | endFilterTag => spaced <| bareTag "endfilter"
  | breakTag => spaced <| bareTag "break"
  | continueTag => spaced <| bareTag "continue"
  | variableTag => spaced <| .all [.rule variableStart, value, .rule variableEnd]
  | superTag => spaced <| .all [.rule variableStart, .lit "super()", .rule variableEnd]
  | plainText => compact <| .some (.seq (.absent (.rule anyStart)) .any)
  | rawTag => spaced <| bareTag "raw"
  | endRawTag => spaced <| bareTag "endraw"
  | rawText => compact <| .many (.seq (.absent (.rule endRawTag)) .any)
  | raw => compact <| .all [.rule rawTag, .rule rawText, .rule endRawTag]
  | filterSection => kept <|
      .all [.rule filterTag, .many (.rule filterContent), .rule endFilterTag]
  | forLoop => kept <| .all [.rule forTag, .many (.rule forContent),
      .many (.seq (.rule elseTag) (.many (.rule forContent))), .rule endForTag]
  | macroIf => kept <| conditional macroContent
  | blockIf => kept <| conditional blockContent
  | forIf => kept <| conditional forContent
  | filterIf => kept <| conditional filterContent
  | contentIf => kept <| conditional content
  | block => kept <| .all [.rule blockTag, .many (.rule blockContent), .rule endBlockTag]
  | macroDefinition => kept <|
      .all [.rule macroTag, .many (.rule macroContent), .rule endMacroTag]
  | filterContent => compact <| oneOf [includeTag, variableTag, commentTag, setTag, setGlobalTag,
      block, forLoop, filterIf, raw, filterSection, plainText]
  | macroContent => compact <| oneOf [includeTag, variableTag, commentTag, setTag, setGlobalTag,
      macroIf, forLoop, filterSection, raw, plainText]
  | blockContent => compact <| oneOf [includeTag, superTag, variableTag, commentTag, setTag,
      setGlobalTag, block, blockIf, forLoop, filterSection, raw, plainText]
  | forContent => compact <| oneOf [includeTag, variableTag, commentTag, setTag, setGlobalTag,
      forIf, forLoop, breakTag, continueTag, filterSection, raw, plainText]
  | content => compact <| oneOf [includeTag, variableTag, commentTag, setTag, setGlobalTag, block,
      contentIf, forLoop, filterSection, raw, plainText]
  | file => kept <| .rule string
  | extendsTag => kept <| .all [gap, tag "extends" [.rule file], gap]
  | importTag => kept <|
      .all [gap, tag "import" [.rule file, space, .lit "as", space, .rule ident], gap]
  | imports => plain <| .alt (.seq (.rule extendsTag) (.many (.rule importTag)))
      (.seq (.some (.rule importTag)) (.maybe (.rule extendsTag)))
  | template => compact <| .all [.many (.rule commentTag), .maybe (.rule imports),
      .many (oneOf [content, macroDefinition]), .finish]

end Rule

/-- The grammar of templates; its blanks are space, tab, carriage return and line feed. -/
def grammar : RuleBook Rule where
  production := Rule.production
  isBlank c := c = ' ' || c = '\t' || c = '\r' || c = '\n'

end TemplateInspector.Template
