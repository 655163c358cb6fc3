import TemplateInspector.Text.Blank
import TemplateInspector.Text.Line

/-!
# Pieces of a template

A template is a sequence of pieces: runs of markup, and tags between a pair of delimiters. A tag
begins at the first opening delimiter outside of a tag and ends at the first closing delimiter of
its kind; without one it runs to the end of the template. Writing the pieces one after another gives
the template back.
-/

namespace TemplateInspector.Template

/-- What a tag is for. -/
inductive TagKind
  /-- A tag between double braces: its value is written. -/
  | expression
  /-- A tag between braces and percent signs: it acts. -/
  | statement
  /-- A tag between braces and number signs: it has no effect. -/
  | comment
  deriving DecidableEq, Repr

namespace TagKind

/-- The character of the opening delimiter that follows the brace. -/
def opening : TagKind → Char
  | .expression => '{'
  | .statement => '%'
  | .comment => '#'

/-- The character of the closing delimiter that precedes the brace. -/
def closing : TagKind → Char
  | .expression => '}'
  | .statement => '%'
  | .comment => '#'

/-- The kind of the tag that two characters open. -/
def opened? (c d : Char) : Option TagKind :=
  if c ≠ '{' then none
  else if d = '{' then some .expression
  else if d = '%' then some .statement
  else if d = '#' then some .comment
  else none

/-- Whether two characters close a tag of this kind. -/
def isClosedBy (kind : TagKind) (c d : Char) : Bool :=
  c = kind.closing && d = '}'

/-- Two characters that open a tag are its opening delimiter. -/
theorem opened?_eq_some {c d : Char} {kind : TagKind} (h : opened? c d = some kind) :
    c = '{' ∧ d = kind.opening := by
  unfold opened? at h
  grind [TagKind.opening]

/-- Two characters that close a tag are its closing delimiter. -/
theorem eq_of_isClosedBy {c d : Char} {kind : TagKind} (h : kind.isClosedBy c d) :
    c = kind.closing ∧ d = '}' := by
  simpa [isClosedBy] using h

end TagKind

/-- A part of a template. -/
inductive Piece
  /-- A run of text outside of tags. -/
  | markup (text : List Char)
  /-- A tag with the text between its delimiters; an unclosed tag has no closing delimiter. -/
  | tag (kind : TagKind) (inner : List Char) (closed : Bool)
  deriving DecidableEq, Repr

/-- The characters of a piece as they stand in the template. -/
def Piece.chars : Piece → List Char
  | .markup text => text
  | .tag kind inner closed =>
    '{' :: kind.opening :: inner ++ if closed then [kind.closing, '}'] else []

/-- The number of bytes of a piece. -/
def Piece.width (piece : Piece) : Nat :=
  Text.byteLength piece.chars

/-- Where the reader of a template stands. `run` is what was read of the current piece, last
character first. -/
inductive Scan
  | outside (run : List Char)
  | inside (kind : TagKind) (run : List Char)

/-- The characters that were read of the current piece. -/
def Scan.chars : Scan → List Char
  | .outside run => run.reverse
  | .inside kind run => '{' :: kind.opening :: run.reverse

/-- The markup piece of a run, given last character first; none for an empty run. -/
def markupPiece (run : List Char) : List Piece :=
  if run.isEmpty then [] else [.markup run.reverse]

/-- The pieces of the rest of a template. -/
def scan : Scan → List Char → List Piece
  | .outside run, [] => markupPiece run
  | .outside run, [c] => markupPiece (c :: run)
  | .outside run, c :: d :: rest =>
    match TagKind.opened? c d with
    | some kind => markupPiece run ++ scan (.inside kind []) rest
    | none => scan (.outside (c :: run)) (d :: rest)
  | .inside kind run, [] => [.tag kind run.reverse false]
  | .inside kind run, [c] => [.tag kind (c :: run).reverse false]
  | .inside kind run, c :: d :: rest =>
    if kind.isClosedBy c d then .tag kind run.reverse true :: scan (.outside []) rest
    else scan (.inside kind (c :: run)) (d :: rest)

/-- The pieces of a template. -/
def pieces (source : List Char) : List Piece :=
  scan (.outside []) source

/-- A markup piece holds exactly the run it is made of. -/
theorem flatMap_chars_markupPiece (run : List Char) :
    (markupPiece run).flatMap Piece.chars = run.reverse := by
  unfold markupPiece
  split <;> simp_all [Piece.chars]

/-- Nothing is lost on the way: the pieces yield what was read before and what follows. -/
theorem flatMap_chars_scan (state : Scan) (rest : List Char) :
    (scan state rest).flatMap Piece.chars = state.chars ++ rest := by
  fun_induction scan state rest with
  | case1 run => simp [flatMap_chars_markupPiece, Scan.chars]
  | case2 run c => simp [flatMap_chars_markupPiece, Scan.chars]
  | case3 run c d rest kind h ih =>
    obtain ⟨rfl, rfl⟩ := TagKind.opened?_eq_some h
    simp [flatMap_chars_markupPiece, Scan.chars, ih]
  | case4 run c d rest h ih => simp [Scan.chars, ih]
  | case5 kind run => simp [Scan.chars, Piece.chars]
  | case6 kind run c => simp [Scan.chars, Piece.chars]
  | case7 kind run c d rest h ih =>
    obtain ⟨rfl, rfl⟩ := TagKind.eq_of_isClosedBy h
    simp [Scan.chars, Piece.chars, ih]
  | case8 kind run c d rest h ih => simp [Scan.chars, ih]

/-- The pieces of a template, written one after another, are the template. -/
theorem flatMap_chars_pieces (source : List Char) :
    (pieces source).flatMap Piece.chars = source := by
  simp [pieces, flatMap_chars_scan, Scan.chars]

/-- The text of a tag: what stands between the delimiters, without a hyphen that touches either of
them and without surrounding blanks. -/
def tagContent (inner : List Char) : List Char :=
  let inner := if inner.head? = some '-' then inner.tail else inner
  let inner := if inner.getLast? = some '-' then inner.dropLast else inner
  Text.trimChars inner

end TemplateInspector.Template
