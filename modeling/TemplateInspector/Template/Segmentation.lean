import TemplateInspector.Syntax.Block
import TemplateInspector.Template.Piece

/-!
# The tree of a template

The pieces of a template are nested: a statement tag whose first word is a section keyword opens a
region that encloses what follows, up to the statement tag whose first word is `end` and the same
keyword. Nesting never fails; what does not match is reported beside the tree.
-/

namespace TemplateInspector.Template

/-- The first words of the statements that open a region. -/
def sectionKeywords : List String :=
  ["if", "for", "block", "macro", "filter", "raw"]

/-- What a statement tag does to the nesting of regions. -/
inductive Role
  /-- It opens a region of this keyword. -/
  | opens (keyword : String)
  /-- It closes the region of this keyword. -/
  | closes (keyword : String)
  /-- It does neither. -/
  | leaf
  deriving DecidableEq, Repr

/-- The role of a statement tag, decided by the first word of its content. -/
def Role.ofContent (content : List Char) : Role :=
  let word := Text.firstWord content
  if sectionKeywords.contains (String.ofList word) then .opens (String.ofList word)
  else match word with
    | 'e' :: 'n' :: 'd' :: keyword => .closes (String.ofList keyword)
    | _ => .leaf

/-- A fault in the nesting of a template. -/
inductive NestingError
  /-- A tag that begins on this line has no closing delimiter. -/
  | unclosedTag (kind : TagKind) (line : Nat)
  /-- An end tag on this line does not match the innermost open region. -/
  | unexpectedEnd (keyword : String) (line : Nat)
  /-- A region opened on this line is not closed. -/
  | unclosedSection (keyword : String) (line : Nat)
  deriving DecidableEq, Repr

/-- The text that reports a nesting error. -/
def NestingError.message : NestingError → String
  | .unclosedTag kind line =>
    "unclosed tag at line " ++ toString line ++ ": expected `" ++
      String.ofList [kind.closing, '}'] ++ "`"
  | .unexpectedEnd keyword line => "unexpected `end" ++ keyword ++ "` at line " ++ toString line
  | .unclosedSection keyword line => "unclosed `" ++ keyword ++ "` opened at line " ++ toString line

/-- A region that has not been closed yet. -/
structure OpenSection where
  /-- The keyword that opened it. -/
  keyword : String
  /-- The region with the blocks read so far. -/
  block : Block
  deriving DecidableEq, Repr

/-- Puts a block at the end of an open region, which then reaches to the end of the block. -/
def OpenSection.push (region : OpenSection) (block : Block) : OpenSection :=
  { region with
    block := { region.block with
      span := ⟨region.block.span.start, block.span.stop - region.block.span.start⟩
      children := region.block.children ++ [block] } }

/-- The tree under construction. -/
structure Nesting where
  /-- The finished blocks outside of every open region. -/
  root : List Block := []
  /-- The open regions, innermost first. -/
  stack : List OpenSection := []
  /-- The faults found, in order. -/
  errors : List NestingError := []
  deriving DecidableEq, Repr

namespace Nesting

/-- Puts a block into the innermost open region, or at the end of the document. -/
def push (nesting : Nesting) (block : Block) : Nesting :=
  match nesting.stack with
  | innermost :: others => { nesting with stack := innermost.push block :: others }
  | [] => { nesting with root := nesting.root ++ [block] }

/-- Adds a fault. -/
def report (nesting : Nesting) (error : NestingError) : Nesting :=
  { nesting with errors := nesting.errors ++ [error] }

/-- Closes the innermost region with its end tag if the keyword matches; otherwise the end tag is
an ordinary block and a fault. -/
def close (nesting : Nesting) (keyword : String) (line : Nat) (endTag : Block) : Nesting :=
  match nesting.stack with
  | innermost :: others =>
    if innermost.keyword = keyword then
      { nesting with stack := others }.push (innermost.push endTag).block
    else (nesting.report (.unexpectedEnd keyword line)).push endTag
  | [] => (nesting.report (.unexpectedEnd keyword line)).push endTag

/-- Adds a statement tag, which may open or close a region. -/
def addStatement (nesting : Nesting) (span : Span) (content : List Char) (line : Nat) : Nesting :=
  let text := String.ofList content
  match Role.ofContent content with
  | .opens keyword =>
    { nesting with stack := ⟨keyword, ⟨.region, span, text, []⟩⟩ :: nesting.stack }
  | .closes keyword => nesting.close keyword line ⟨.statement, span, text, []⟩
  | .leaf => nesting.push ⟨.statement, span, text, []⟩

/-- Adds the piece of the template `source` that begins at a byte offset. -/
def add (source : List Char) (nesting : Nesting) (offset : Nat) (piece : Piece) : Nesting :=
  match piece with
  | .markup text => nesting.push ⟨.markup, ⟨offset, piece.width⟩, String.ofList text, []⟩
  | .tag kind inner closed =>
    let line := Text.lineAt source offset
    let span : Span := ⟨offset, piece.width⟩
    let content := tagContent inner
    let nesting := if closed then nesting else nesting.report (.unclosedTag kind line)
    match kind with
    | .expression => nesting.push ⟨.expression, span, String.ofList content, []⟩
    | .comment => nesting.push ⟨.comment, span, String.ofList content, []⟩
    | .statement => nesting.addStatement span content line

/-- Adds the pieces of the template `source` that follow a byte offset. -/
def addAll (source : List Char) (nesting : Nesting) (offset : Nat) : List Piece → Nesting
  | [] => nesting
  | piece :: others =>
    addAll source (nesting.add source offset piece) (offset + piece.width) others

/-- Ends the open regions, innermost first, each of which is a fault. `ended` is the region that
ended last, which goes to the end of the one around it. -/
def unwind (source : List Char) (root : List Block) (errors : List NestingError)
    (ended : Option Block) : List OpenSection → List Block × List NestingError
  | [] => (root ++ ended.toList, errors)
  | innermost :: others =>
    let region := (ended.elim innermost innermost.push).block
    let line := Text.lineAt source region.span.start
    unwind source root (errors ++ [.unclosedSection innermost.keyword line]) (some region) others

end Nesting

/-- The tree of a template and the faults in its nesting. -/
structure Segmentation where
  /-- The tree; its root is a document that covers the whole template. -/
  document : Block
  /-- The faults in order. -/
  errors : List NestingError
  deriving DecidableEq, Repr

/-- The tree of a template and the faults in its nesting. -/
def segment (source : List Char) : Segmentation :=
  let nesting := Nesting.addAll source {} 0 (pieces source)
  let (children, errors) := Nesting.unwind source nesting.root nesting.errors none nesting.stack
  ⟨⟨.document, ⟨0, Text.byteLength source⟩, "", children⟩, errors⟩

end TemplateInspector.Template
