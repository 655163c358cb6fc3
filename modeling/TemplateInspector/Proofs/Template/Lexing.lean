import Mathlib.Data.List.Chain
import TemplateInspector.Template.Piece

/-!
# The pieces of a template are its only reading

A grammar says what a list of pieces may look like: a tag begins at the first pair that opens one
and ends at the first pair that closes it. Every template has exactly one such reading, which is
the one that `pieces` finds.
-/

namespace TemplateInspector.Template

/-- No two characters in a row open a tag. -/
def Plain (cs : List Char) : Prop :=
  cs.IsChain fun c d => TagKind.opened? c d = none

/-- No two characters in a row close a tag of this kind. -/
def Uncut (kind : TagKind) (cs : List Char) : Prop :=
  cs.IsChain fun c d => kind.isClosedBy c d = false

/-- What the pieces of a template look like. Markup is not empty and stands only before a tag or at
the end; a tag that is not closed stands only at the end. No tag could begin or end earlier than it
does, so the first characters of its delimiters are looked at as well. -/
inductive Lexed : List Piece → Prop
  /-- Nothing is left. -/
  | nil : Lexed []
  /-- Markup up to the end. -/
  | markup {text : List Char} (hempty : text ≠ []) (hplain : Plain text) : Lexed [.markup text]
  /-- Markup up to a tag. -/
  | between {text inner : List Char} {kind : TagKind} {closed : Bool} {others : List Piece}
      (hempty : text ≠ []) (hplain : Plain (text ++ ['{']))
      (hothers : Lexed (.tag kind inner closed :: others)) :
      Lexed (.markup text :: .tag kind inner closed :: others)
  /-- A tag with both delimiters. -/
  | closed {kind : TagKind} {inner : List Char} {others : List Piece}
      (huncut : Uncut kind (inner ++ [kind.closing])) (hothers : Lexed others) :
      Lexed (.tag kind inner true :: others)
  /-- A tag up to the end. -/
  | unclosed {kind : TagKind} {inner : List Char} (huncut : Uncut kind inner) :
      Lexed [.tag kind inner false]

/-- A reading of a template: pieces that are written as it is and that follow the grammar. -/
structure Lexes (ps : List Piece) (source : List Char) : Prop where
  /-- The pieces one after another are the template. -/
  chars : ps.flatMap Piece.chars = source
  /-- The pieces follow the grammar. -/
  lexed : Lexed ps

/-- The opening delimiter of a kind opens a tag of that kind. -/
@[simp] theorem TagKind.opened?_opening (kind : TagKind) :
    opened? '{' kind.opening = some kind := by
  cases kind <;> rfl

/-- The closing delimiter of a kind closes a tag of that kind. -/
@[simp] theorem TagKind.isClosedBy_closing (kind : TagKind) :
    kind.isClosedBy kind.closing '}' = true := by
  cases kind <;> rfl

/-- No two characters open a tag exactly if no opening delimiter stands among them. -/
theorem plain_iff {cs : List Char} :
    Plain cs ↔ ∀ kind : TagKind, ¬['{', kind.opening] <:+: cs := by
  rw [Plain, List.isChain_iff_forall_rel_of_append_cons_cons]
  constructor
  · rintro h kind ⟨before, after, rfl⟩
    have hopened := @h '{' kind.opening before after (by simp)
    rw [TagKind.opened?_opening] at hopened
    cases hopened
  · rintro h c d before after rfl
    cases hopened : TagKind.opened? c d with
    | none => rfl
    | some kind =>
      obtain ⟨rfl, rfl⟩ := TagKind.opened?_eq_some hopened
      exact absurd ⟨before, after, by simp⟩ (h kind)

/-- Plain text up to the end is read as one run. -/
theorem scan_plain (run : List Char) {text : List Char} (h : Plain text) :
    scan (.outside run) text = markupPiece (text.reverse ++ run) := by
  induction text generalizing run with
  | nil => rw [scan, List.reverse_nil, List.nil_append]
  | cons c text ih =>
    cases text with
    | nil => rw [scan, List.reverse_singleton, List.singleton_append]
    | cons d text =>
      obtain ⟨hopens, htext⟩ := List.isChain_cons_cons.mp h
      simp only [scan, hopens]
      have hrun : (c :: d :: text).reverse ++ run = (d :: text).reverse ++ c :: run := by simp
      rw [ih (c :: run) htext, hrun]

/-- Plain text up to a tag is read as one run, after which the tag is read. -/
theorem scan_plain_tag (run : List Char) {text : List Char} (kind : TagKind) (rest : List Char)
    (h : Plain (text ++ ['{'])) :
    scan (.outside run) (text ++ '{' :: kind.opening :: rest) =
      markupPiece (text.reverse ++ run) ++ scan (.inside kind []) rest := by
  induction text generalizing run with
  | nil => simp only [List.nil_append, scan, TagKind.opened?_opening, List.reverse_nil]
  | cons c text ih =>
    rw [List.reverse_cons, List.append_assoc, List.singleton_append]
    cases text with
    | nil =>
      obtain ⟨hopens, -⟩ := List.isChain_cons_cons.mp h
      simp only [List.cons_append, List.nil_append, scan, hopens, TagKind.opened?_opening,
        List.reverse_nil]
    | cons d text =>
      obtain ⟨hopens, htext⟩ := List.isChain_cons_cons.mp h
      rw [← ih (c :: run) htext]
      simp only [List.cons_append, scan, hopens]

/-- The text of a tag that is not closed is read up to the end. -/
theorem scan_uncut (kind : TagKind) (run : List Char) {inner : List Char} (h : Uncut kind inner) :
    scan (.inside kind run) inner = [.tag kind (run.reverse ++ inner) false] := by
  induction inner generalizing run with
  | nil => rw [scan, List.append_nil]
  | cons c inner ih =>
    cases inner with
    | nil => rw [scan, List.reverse_cons]
    | cons d inner =>
      obtain ⟨hcloses, hinner⟩ := List.isChain_cons_cons.mp h
      simp only [scan, hcloses, Bool.false_eq_true, ite_false]
      rw [ih (c :: run) hinner, List.reverse_cons, List.append_assoc, List.singleton_append]

/-- The text of a closed tag is read up to its closing delimiter. -/
theorem scan_uncut_closed (kind : TagKind) (run : List Char) {inner : List Char}
    (rest : List Char) (h : Uncut kind (inner ++ [kind.closing])) :
    scan (.inside kind run) (inner ++ kind.closing :: '}' :: rest) =
      .tag kind (run.reverse ++ inner) true :: scan (.outside []) rest := by
  induction inner generalizing run with
  | nil =>
    simp only [List.nil_append, scan, TagKind.isClosedBy_closing, ite_true, List.append_nil]
  | cons c inner ih =>
    have hrun : run.reverse ++ c :: inner = (c :: run).reverse ++ inner := by simp
    rw [hrun]
    cases inner with
    | nil =>
      obtain ⟨hcloses, -⟩ := List.isChain_cons_cons.mp h
      simp only [List.cons_append, List.nil_append, scan, hcloses, TagKind.isClosedBy_closing,
        Bool.false_eq_true, ite_true, ite_false, List.append_nil]
    | cons d inner =>
      obtain ⟨hcloses, hinner⟩ := List.isChain_cons_cons.mp h
      rw [← ih (c :: run) hinner]
      simp only [List.cons_append, scan, hcloses, Bool.false_eq_true, ite_false]

/-- A run that is not empty is one piece of markup. -/
theorem markupPiece_reverse {text : List Char} (h : text ≠ []) :
    markupPiece text.reverse = [.markup text] := by
  have hrun : text.reverse.isEmpty = false := by simpa using h
  rw [markupPiece, hrun, List.reverse_reverse]
  rfl

/-- A tag is read from its opening delimiter on. -/
theorem scan_tag (kind : TagKind) (rest : List Char) :
    scan (.outside []) ('{' :: kind.opening :: rest) = scan (.inside kind []) rest := by
  simp only [scan, TagKind.opened?_opening, markupPiece, List.isEmpty_nil, ite_true,
    List.nil_append]

/-- The characters of a tag begin with its opening delimiter. -/
theorem chars_tag (kind : TagKind) (inner : List Char) (closed : Bool) :
    (Piece.tag kind inner closed).chars =
      '{' :: kind.opening :: (inner ++ if closed then [kind.closing, '}'] else []) := rfl

/-- A closed tag is read as it is written, whatever follows. -/
theorem pieces_tag_append {kind : TagKind} {inner : List Char}
    (h : Uncut kind (inner ++ [kind.closing])) (rest : List Char) :
    pieces ((Piece.tag kind inner true).chars ++ rest) = .tag kind inner true :: pieces rest := by
  rw [chars_tag, if_pos rfl, List.cons_append, List.cons_append, List.append_assoc, pieces,
    scan_tag, List.cons_append, List.cons_append, List.nil_append, scan_uncut_closed kind [] _ h]
  rfl

/-- Pieces that follow the grammar are read back from the text that they are written as. -/
theorem pieces_of_lexed {ps : List Piece} (h : Lexed ps) :
    pieces (ps.flatMap Piece.chars) = ps := by
  induction h with
  | nil => rfl
  | @markup text hempty hplain =>
    rw [List.flatMap_singleton, Piece.chars, pieces, scan_plain [] hplain, List.append_nil,
      markupPiece_reverse hempty]
  | @between text inner kind closed others hempty hplain hothers ih =>
    rw [List.flatMap_cons, chars_tag, List.cons_append, List.cons_append] at ih
    rw [List.flatMap_cons, List.flatMap_cons, chars_tag, List.cons_append, List.cons_append]
    rw [pieces, scan_tag] at ih
    rw [pieces, Piece.chars, scan_plain_tag [] kind _ hplain, ih, List.append_nil,
      markupPiece_reverse hempty, List.singleton_append]
  | @closed kind inner others huncut hothers ih =>
    rw [List.flatMap_cons, pieces_tag_append huncut, ih]
  | @unclosed kind inner huncut =>
    rw [List.flatMap_singleton, chars_tag, if_neg Bool.false_ne_true, List.append_nil, pieces,
      scan_tag, scan_uncut kind [] huncut, List.reverse_nil, List.nil_append]

/-- Inside a tag the next piece is that tag. -/
theorem scan_inside_eq (kind : TagKind) (run rest : List Char) :
    ∃ inner closed others, scan (.inside kind run) rest = .tag kind inner closed :: others := by
  induction rest generalizing run with
  | nil => exact ⟨_, _, _, rfl⟩
  | cons c rest ih =>
    cases rest with
    | nil => exact ⟨_, _, _, rfl⟩
    | cons d rest =>
      rw [scan]
      split
      · exact ⟨_, _, _, rfl⟩
      · exact ih (c :: run)

/-- What was read of the current piece does not end before the character to be read. -/
def Scan.Unfinished : Scan → List Char → Prop
  | .outside run, rest => Plain (run.reverse ++ rest.take 1)
  | .inside kind run, rest => Uncut kind (run.reverse ++ rest.take 1)

/-- Nothing ends a piece of which nothing was read. -/
theorem isChain_take_one {R : Char → Char → Prop} (rest : List Char) :
    (rest.take 1).IsChain R := by
  cases rest with
  | nil => exact .nil
  | cons c rest => exact .singleton c

/-- A character that does not end a piece is read as part of it. -/
theorem isChain_read {R : Char → Char → Prop} {run rest : List Char} {c d : Char}
    (h : (run.reverse ++ (c :: d :: rest).take 1).IsChain R) (hcd : R c d) :
    ((c :: run).reverse ++ (d :: rest).take 1).IsChain R := by
  rw [List.reverse_cons, List.append_assoc]
  exact List.isChain_append_cons_cons.mpr ⟨h, hcd, .singleton d⟩

/-- Plain text up to the end follows the grammar. -/
theorem lexed_markupPiece {run : List Char} (h : Plain run.reverse) : Lexed (markupPiece run) := by
  rcases eq_or_ne run [] with rfl | hempty
  · exact .nil
  · rw [← run.reverse_reverse, markupPiece_reverse (by simpa using hempty)]
    exact .markup (by simpa using hempty) h

/-- Plain text up to a tag follows the grammar. -/
theorem lexed_markupPiece_append {run inner : List Char} {kind : TagKind} {closed : Bool}
    {others : List Piece} (h : Plain (run.reverse ++ ['{']))
    (hothers : Lexed (.tag kind inner closed :: others)) :
    Lexed (markupPiece run ++ .tag kind inner closed :: others) := by
  rcases eq_or_ne run [] with rfl | hempty
  · exact hothers
  · rw [← run.reverse_reverse, markupPiece_reverse (by simpa using hempty)]
    exact .between (by simpa using hempty) h hothers

/-- The pieces that are found follow the grammar. -/
theorem lexed_scan (state : Scan) (rest : List Char) (h : state.Unfinished rest) :
    Lexed (scan state rest) := by
  fun_induction scan state rest with
  | case1 run => exact lexed_markupPiece (by simpa [Scan.Unfinished] using h)
  | case2 run c => exact lexed_markupPiece (by simpa [Scan.Unfinished] using h)
  | case3 run c d rest kind hopens ih =>
    obtain ⟨rfl, rfl⟩ := TagKind.opened?_eq_some hopens
    -- The markup needs to know that a tag follows it, which the recursive call does not show.
    obtain ⟨inner, closed, others, hscan⟩ := scan_inside_eq kind [] rest
    rw [hscan] at ih ⊢
    exact lexed_markupPiece_append h (ih (isChain_take_one rest))
  | case4 run c d rest hopens ih => exact ih (isChain_read h hopens)
  | case5 kind run => exact .unclosed (by simpa [Scan.Unfinished] using h)
  | case6 kind run c => exact .unclosed (by simpa [Scan.Unfinished] using h)
  | case7 kind run c d rest hcloses ih =>
    obtain ⟨rfl, rfl⟩ := TagKind.eq_of_isClosedBy hcloses
    exact .closed h (ih (isChain_take_one rest))
  | case8 kind run c d rest hcloses ih =>
    exact ih (isChain_read h (eq_false_of_ne_true hcloses))

/-- Every template has exactly one reading. -/
theorem lexes_iff (ps : List Piece) (source : List Char) :
    Lexes ps source ↔ ps = pieces source := by
  constructor
  · rintro ⟨rfl, hlexed⟩
    exact (pieces_of_lexed hlexed).symm
  · rintro rfl
    exact ⟨flatMap_chars_pieces source, lexed_scan (.outside []) source (isChain_take_one source)⟩

end TemplateInspector.Template
