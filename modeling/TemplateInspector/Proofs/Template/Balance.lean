import TemplateInspector.Proofs.Template.Lexing
import TemplateInspector.Template.Segmentation

/-!
# Balanced sections

Two views of the statement tags that open and close sections: a grammar of the balanced sequences,
in which every section holds a balanced sequence and is closed by its own end tag; and a walk along
the pieces with the sections that are open, which counts the end tags that do not fit. A sequence is
balanced exactly if the walk meets no such end tag and leaves no section open.
-/

namespace TemplateInspector.Template

open Text

/-! ## What a piece does to the sections -/

/-- The first word of a statement tag; other pieces have none. -/
def Piece.word? : Piece → Option (List Char)
  | .tag .statement inner _ => some (firstWord (tagContent inner))
  | _ => none

/-- A statement tag whose first word is one of the section keywords opens a section. -/
def Piece.OpensSection (piece : Piece) (keyword : String) : Prop :=
  keyword ∈ ["if", "for", "block", "macro", "filter", "raw"] ∧ piece.word? = some keyword.toList

/-- A statement tag whose first word is `end` and a keyword closes a section of that keyword. -/
def Piece.ClosesSection (piece : Piece) (keyword : String) : Prop :=
  piece.word? = some ("end".toList ++ keyword.toList)

/-- What a piece does to the nesting. -/
def Piece.role : Piece → Role
  | .tag .statement inner _ => Role.ofContent (tagContent inner)
  | _ => .leaf

/-- The characters of a text are a list exactly if the text is made of that list. -/
theorem ofList_eq_iff {cs : List Char} {s : String} : String.ofList cs = s ↔ cs = s.toList := by
  rw [← String.toList_inj, String.toList_ofList]

/-- No section keyword begins with `end`. -/
theorem not_end_of_mem_sectionKeywords {keyword : String} (h : keyword ∈ sectionKeywords)
    (rest : List Char) : keyword.toList ≠ "end".toList ++ rest := by
  simp only [sectionKeywords, List.mem_cons, List.not_mem_nil, or_false] at h
  rcases h with rfl | rfl | rfl | rfl | rfl | rfl <;> simp

/-- A content opens a section of its first word, if that is a section keyword. -/
theorem Role.ofContent_eq_opens_iff {content : List Char} {keyword : String} :
    Role.ofContent content = .opens keyword ↔
      keyword ∈ sectionKeywords ∧ firstWord content = keyword.toList := by
  rw [← ofList_eq_iff]
  simp only [Role.ofContent]
  split
  case isTrue hmem =>
    have hmem : String.ofList (firstWord content) ∈ sectionKeywords := by simpa using hmem
    constructor
    · intro h
      obtain rfl := Role.opens.inj h
      exact ⟨hmem, rfl⟩
    · rintro ⟨-, rfl⟩
      rfl
  case isFalse hnot =>
    refine iff_of_false ?_ ?_
    · split <;> simp
    · rintro ⟨hmem, rfl⟩
      exact hnot (by simpa using hmem)

/-- A content closes a section of what follows `end` in its first word. -/
theorem Role.ofContent_eq_closes_iff {content : List Char} {keyword : String} :
    Role.ofContent content = .closes keyword ↔
      firstWord content = "end".toList ++ keyword.toList := by
  simp only [Role.ofContent]
  split
  case isTrue hmem =>
    have hmem : String.ofList (firstWord content) ∈ sectionKeywords := by simpa using hmem
    refine iff_of_false (by simp) fun h => ?_
    exact not_end_of_mem_sectionKeywords hmem keyword.toList (by rw [String.toList_ofList, h])
  case isFalse hnot =>
    split
    case h_1 rest hword =>
      rw [hword, Role.closes.injEq, ofList_eq_iff]
      simp
    case h_2 hword =>
      refine iff_of_false (by simp) fun h => hword keyword.toList (by simpa using h)

theorem Piece.role_eq_opens_iff {piece : Piece} {keyword : String} :
    piece.role = .opens keyword ↔ piece.OpensSection keyword := by
  rcases piece with text | ⟨_ | _ | _, inner, closed⟩
  case tag.statement =>
    rw [role, Role.ofContent_eq_opens_iff, OpensSection, word?, Option.some.injEq, sectionKeywords]
  all_goals simp [role, OpensSection, word?]

theorem Piece.role_eq_closes_iff {piece : Piece} {keyword : String} :
    piece.role = .closes keyword ↔ piece.ClosesSection keyword := by
  rcases piece with text | ⟨_ | _ | _, inner, closed⟩
  case tag.statement =>
    rw [role, Role.ofContent_eq_closes_iff, ClosesSection, word?, Option.some.injEq]
  all_goals simp [role, ClosesSection, word?]

/-! ## The grammar -/

/-- Every section is closed by its own end tag, and what stands inside is balanced again. -/
inductive Balanced : List Piece → Prop
  /-- Nothing. -/
  | nil : Balanced []
  /-- A piece that neither opens nor closes a section, and more. -/
  | leaf {piece : Piece} {others : List Piece} (hopens : ∀ keyword, ¬piece.OpensSection keyword)
      (hcloses : ∀ keyword, ¬piece.ClosesSection keyword) (hothers : Balanced others) :
      Balanced (piece :: others)
  /-- A section from its opening to its end tag, and more. -/
  | region {opening closing : Piece} {keyword : String} {inside others : List Piece}
      (hopens : opening.OpensSection keyword) (hinside : Balanced inside)
      (hcloses : closing.ClosesSection keyword) (hothers : Balanced others) :
      Balanced (opening :: inside ++ closing :: others)

/-! ## The walk -/

/-- The sections that are open after a piece, innermost first, given those before it. An end tag
that does not fit the innermost section closes nothing. -/
def Piece.openAfter (piece : Piece) (sections : List String) : List String :=
  match piece.role with
  | .opens keyword => keyword :: sections
  | .closes keyword => if sections.head? = some keyword then sections.tail else sections
  | .leaf => sections

/-- Whether a piece is an end tag that does not fit the innermost of the open sections. -/
def Piece.isStray (piece : Piece) (sections : List String) : Bool :=
  match piece.role with
  | .closes keyword => sections.head? ≠ some keyword
  | _ => false

/-- The sections that are open after some pieces. -/
def openAfter (sections : List String) (ps : List Piece) : List String :=
  ps.foldl (fun sections piece => piece.openAfter sections) sections

/-- The number of end tags that do not fit the innermost section that is open before them. -/
def strayEnds (sections : List String) : List Piece → Nat
  | [] => 0
  | piece :: others =>
    (piece.isStray sections).toNat + strayEnds (piece.openAfter sections) others

/-- The walk meets no end tag that does not fit, and leaves these sections open. -/
def Walks (sections : List String) (ps : List Piece) (left : List String) : Prop :=
  strayEnds sections ps = 0 ∧ openAfter sections ps = left

theorem walks_nil {sections left : List String} : Walks sections [] left ↔ sections = left := by
  simp [Walks, strayEnds, openAfter]

theorem walks_cons {sections left : List String} {piece : Piece} {others : List Piece} :
    Walks sections (piece :: others) left ↔
      piece.isStray sections = false ∧ Walks (piece.openAfter sections) others left := by
  simp [Walks, strayEnds, openAfter, and_assoc]

theorem walks_append {sections left : List String} {ps others : List Piece} :
    Walks sections (ps ++ others) left ↔
      ∃ between, Walks sections ps between ∧ Walks between others left := by
  induction ps generalizing sections with
  | nil => simp [walks_nil]
  | cons piece ps ih => simp [walks_cons, ih, and_assoc]

/-- A piece that neither opens nor closes a section is passed by. -/
theorem walks_leaf {sections left : List String} {piece : Piece} {others : List Piece}
    (h : piece.role = .leaf) :
    Walks sections (piece :: others) left ↔ Walks sections others left := by
  simp [walks_cons, Piece.isStray, Piece.openAfter, h]

/-- A section is open after its opening tag. -/
theorem walks_opening {sections left : List String} {piece : Piece} {others : List Piece}
    {keyword : String} (h : piece.role = .opens keyword) :
    Walks sections (piece :: others) left ↔ Walks (keyword :: sections) others left := by
  simp [walks_cons, Piece.isStray, Piece.openAfter, h]

/-- An end tag has to fit the innermost section, which it closes. -/
theorem walks_closing {sections left : List String} {piece : Piece} {others : List Piece}
    {keyword : String} (h : piece.role = .closes keyword) :
    Walks sections (piece :: others) left ↔
      ∃ outer, sections = keyword :: outer ∧ Walks outer others left := by
  cases sections with
  | nil => simp [walks_cons, Piece.isStray, h]
  | cons innermost outer =>
    by_cases hfits : innermost = keyword
    · simp [walks_cons, Piece.isStray, Piece.openAfter, h, hfits]
    · simp [walks_cons, Piece.isStray, h, hfits]

/-! ## The walk follows the grammar -/

/-- A piece that neither opens nor closes a section is a leaf. -/
theorem Piece.role_eq_leaf_iff {piece : Piece} :
    piece.role = .leaf ↔
      (∀ keyword, ¬piece.OpensSection keyword) ∧ ∀ keyword, ¬piece.ClosesSection keyword := by
  simp only [← role_eq_opens_iff, ← role_eq_closes_iff]
  cases piece.role <;> simp

/-- Balanced pieces leave the sections open that were open before them. -/
theorem Balanced.walks {ps : List Piece} (h : Balanced ps) (sections : List String) :
    Walks sections ps sections := by
  induction h generalizing sections with
  | nil => exact walks_nil.mpr rfl
  | leaf hopens hcloses hothers ih =>
    exact (walks_leaf (Piece.role_eq_leaf_iff.mpr ⟨hopens, hcloses⟩)).mpr (ih sections)
  | @region _ closing keyword _ others hopens hinside hcloses hothers ihinside ihothers =>
    have hend : Walks (keyword :: sections) (closing :: others) sections :=
      (walks_closing (Piece.role_eq_closes_iff.mpr hcloses)).mpr ⟨sections, rfl, ihothers sections⟩
    rw [List.cons_append, walks_opening (Piece.role_eq_opens_iff.mpr hopens), walks_append]
    exact ⟨keyword :: sections, ihinside _, hend⟩

/-- Pieces that close these sections one after another, innermost first, with balanced pieces before
each of the end tags and after the last one. -/
def Finishes : List String → List Piece → Prop
  | [], ps => Balanced ps
  | keyword :: sections, ps =>
    ∃ inside closing others, ps = inside ++ closing :: others ∧ Balanced inside ∧
      closing.ClosesSection keyword ∧ Finishes sections others

/-- A leaf may precede pieces that close sections. -/
theorem Finishes.leaf {sections : List String} {ps : List Piece} {piece : Piece}
    (h : Finishes sections ps) (hleaf : piece.role = .leaf) : Finishes sections (piece :: ps) := by
  obtain ⟨hopens, hcloses⟩ := Piece.role_eq_leaf_iff.mp hleaf
  cases sections with
  | nil => exact Balanced.leaf hopens hcloses h
  | cons keyword sections =>
    obtain ⟨inside, closing, others, rfl, hinside, hclosing, hothers⟩ := h
    exact ⟨piece :: inside, closing, others, rfl, .leaf hopens hcloses hinside, hclosing, hothers⟩

/-- A whole section may precede pieces that close sections. -/
theorem Finishes.region {sections : List String} {ps : List Piece} {opening : Piece}
    {keyword : String} (h : Finishes (keyword :: sections) ps)
    (hopens : opening.OpensSection keyword) : Finishes sections (opening :: ps) := by
  obtain ⟨inside, closing, others, rfl, hinside, hclosing, hothers⟩ := h
  cases sections with
  | nil => exact Balanced.region hopens hinside hclosing hothers
  | cons outer sections =>
    obtain ⟨after, last, others, rfl, hafter, hlast, hothers⟩ := hothers
    refine ⟨opening :: inside ++ closing :: after, last, others, by simp, ?_, hlast, hothers⟩
    exact .region hopens hinside hclosing hafter

/-- If the walk closes all open sections, the pieces do so one section after another. -/
theorem finishes_of_walks {sections : List String} {ps : List Piece} (h : Walks sections ps []) :
    Finishes sections ps := by
  induction ps generalizing sections with
  | nil =>
    obtain rfl := walks_nil.mp h
    exact Balanced.nil
  | cons piece ps ih =>
    cases hrole : piece.role with
    | leaf => exact (ih ((walks_leaf hrole).mp h)).leaf hrole
    | opens keyword =>
      exact (ih ((walks_opening hrole).mp h)).region (Piece.role_eq_opens_iff.mp hrole)
    | closes keyword =>
      obtain ⟨outer, rfl, hothers⟩ := (walks_closing hrole).mp h
      exact ⟨[], piece, ps, rfl, .nil, Piece.role_eq_closes_iff.mp hrole, ih hothers⟩

/-- Pieces are balanced exactly if the walk along them meets no end tag that does not fit and leaves
no section open. -/
theorem balanced_iff_walks {ps : List Piece} : Balanced ps ↔ Walks [] ps [] :=
  ⟨fun h => h.walks [], finishes_of_walks⟩

end TemplateInspector.Template
