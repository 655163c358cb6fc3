import TemplateInspector.Proofs.Template.Relocation

/-!
# Hyphens at the delimiters of tags

A hyphen that touches a delimiter of a tag belongs to the delimiter. Where the text of a tag has
none, one may be put after the opening delimiter, before the closing one, or at both: it opens and
closes nothing, so the pieces are the same one by one, and the tree and its faults stay as they are.
Only what stands behind a hyphen is moved by its byte.
-/

namespace TemplateInspector.Text

/-- A text with a character put in at a byte offset. -/
def insertAt (c : Char) : Nat → List Char → List Char
  | 0, cs => c :: cs
  | _ + 1, [] => [c]
  | offset + 1, d :: cs => d :: insertAt c (offset + 1 - d.utf8Size) cs

/-- A character is put in behind as many bytes as the offset says. -/
theorem insertAt_byteLength (c : Char) (before after : List Char) :
    insertAt c (byteLength before) (before ++ after) = before ++ c :: after := by
  induction before with
  | nil => rw [byteLength_nil, insertAt, List.nil_append, List.nil_append]
  | cons d before ih =>
    have hd := d.utf8Size_pos
    obtain ⟨offset, hoffset⟩ := Nat.exists_eq_add_of_lt (Nat.add_pos_left hd (byteLength before))
    rw [byteLength_cons, List.cons_append, List.cons_append, hoffset, Nat.zero_add, insertAt,
      ← ih, ← Nat.zero_add offset, ← hoffset, Nat.add_sub_cancel_left]

/-- A character of one byte that ends no line moves what stands behind it by one byte and leaves
all lines as they are. -/
theorem lineAt_insert {c : Char} (hwidth : c.utf8Size = 1) (hfeed : c ≠ '\n')
    (before after : List Char) (offset : Nat) :
    lineAt (before ++ c :: after) (offset + if byteLength before ≤ offset then 1 else 0) =
      lineAt (before ++ after) offset := by
  have hzero (cs : List Char) : lineAt cs 0 = 1 := by cases cs <;> rfl
  induction before generalizing offset with
  | nil => simp [lineAt, hwidth, hfeed]
  | cons d before ih =>
    have hd := d.utf8Size_pos
    rw [byteLength_cons, List.cons_append, List.cons_append, lineAt, lineAt]
    by_cases hinside : offset < d.utf8Size
    · rw [if_neg (show ¬d.utf8Size + byteLength before ≤ offset by omega), Nat.add_zero,
        Nat.sub_eq_zero_of_le (Nat.le_of_lt hinside), hzero, hzero]
    · have hmoved : offset + (if d.utf8Size + byteLength before ≤ offset then 1 else 0) -
          d.utf8Size = offset - d.utf8Size +
            if byteLength before ≤ offset - d.utf8Size then 1 else 0 := by
        split_ifs <;> omega
      have hpos : 0 < offset := by omega
      rw [hmoved, ih, if_neg (Nat.ne_of_gt (Nat.add_pos_left hpos _)), if_neg (Nat.ne_of_gt hpos)]

end TemplateInspector.Text

namespace TemplateInspector.Template

open Text

/-! ## Hyphens and what they move -/

/-- The hyphens that are put into a tag. -/
structure Hyphens where
  /-- Whether one is put right after the opening delimiter. -/
  opening : Bool
  /-- Whether one is put right before the closing delimiter, or at the end of the text. -/
  closing : Bool

namespace Hyphens

/-- The text of a tag with the hyphens. -/
def around (hyphens : Hyphens) (inner : List Char) : List Char :=
  (if hyphens.opening then ['-'] else []) ++ inner ++ if hyphens.closing then ['-'] else []

/-- The byte offsets at which the hyphens are put into a tag that begins at `offset`. -/
def offsets (hyphens : Hyphens) (offset : Nat) (inner : List Char) : List Nat :=
  (if hyphens.opening then [offset + 2] else []) ++
    if hyphens.closing then [offset + 2 + byteLength inner] else []

end Hyphens

/-- Where a byte offset goes when a byte is put in at each of the given ones: it is moved by one
byte for each of these that it reaches. -/
def shift (inserted : List Nat) (offset : Nat) : Nat :=
  offset + inserted.countP (· ≤ offset)

/-- What is moved stays in order. -/
theorem monotone_shift (inserted : List Nat) : Monotone (shift inserted) := by
  intro offset later hle
  refine Nat.add_le_add hle (List.countP_mono_left fun place _ hplace => ?_)
  simp only [decide_eq_true_eq] at hplace ⊢
  omega

/-- What stands before everything that is put in is not moved. -/
theorem shift_of_lt {inserted : List Nat} {offset : Nat} (h : ∀ place ∈ inserted, offset < place) :
    shift inserted offset = offset := by
  rw [shift, List.countP_eq_zero.mpr fun place hplace => by simpa using h place hplace,
    Nat.add_zero]

/-- What stands behind everything that is put in is moved by all of it. -/
theorem shift_of_le {inserted : List Nat} {offset : Nat} (h : ∀ place ∈ inserted, place ≤ offset) :
    shift inserted offset = offset + inserted.length := by
  rw [shift, List.countP_eq_length.mpr fun place hplace => by simpa using h place hplace]

namespace Hyphens

variable (hyphens : Hyphens) (inner : List Char)

/-- Every hyphen has one byte. -/
theorem byteLength_around (offset : Nat) : byteLength (hyphens.around inner) =
    byteLength inner + (hyphens.offsets offset inner).length := by
  obtain ⟨_ | _, _ | _⟩ := hyphens <;> simp [around, offsets, Char.utf8Size] <;> omega

/-- The hyphens stand between the delimiters of the tag. -/
theorem mem_offsets {offset place : Nat} (h : place ∈ hyphens.offsets offset inner) :
    offset < place ∧ place ≤ offset + 2 + byteLength inner := by
  obtain ⟨_ | _, _ | _⟩ := hyphens <;> simp [offsets] at h <;> omega

/-- The hyphens are put in around the text of the tag. -/
theorem foldr_insertAt {before : List Char} {offset : Nat}
    (hbefore : byteLength before = offset + 2) (after : List Char) :
    (hyphens.offsets offset inner).foldr (insertAt '-') (before ++ inner ++ after) =
      before ++ hyphens.around inner ++ after := by
  have hinner : byteLength (before ++ inner) = offset + 2 + byteLength inner := by
    rw [byteLength_append, hbefore]
  have hopen := insertAt_byteLength '-' before
  have hclose := insertAt_byteLength '-' (before ++ inner) after
  rw [hbefore] at hopen
  rw [hinner] at hclose
  obtain ⟨_ | _, _ | _⟩ := hyphens
  case false.false => simp [around, offsets]
  case false.true => simpa [around, offsets] using hclose
  case true.false => simpa [around, offsets] using hopen (inner ++ after)
  case true.true =>
    have hboth := hopen (inner ++ '-' :: after)
    rw [← List.append_assoc, ← hclose] at hboth
    simpa [around, offsets] using hboth

/-- The lines of a template are the same with the hyphens. -/
theorem lineAt_shift {before : List Char} {offset : Nat} (hbefore : byteLength before = offset + 2)
    (after : List Char) (place : Nat) :
    lineAt (before ++ hyphens.around inner ++ after) (shift (hyphens.offsets offset inner) place) =
      lineAt (before ++ inner ++ after) place := by
  have hinner : byteLength (before ++ inner) = offset + 2 + byteLength inner := by
    rw [byteLength_append, hbefore]
  have hopen (rest : List Char) := lineAt_insert (c := '-') (by rfl) (by decide) before rest
  have hclose := lineAt_insert (c := '-') (by rfl) (by decide) (before ++ inner) after
  rw [hbefore] at hopen
  rw [hinner] at hclose
  obtain ⟨_ | _, _ | _⟩ := hyphens
  case false.false => simp [around, offsets, shift]
  case false.true => simpa [around, offsets, shift, List.countP_cons] using hclose place
  case true.false =>
    simpa [around, offsets, shift, List.countP_cons] using hopen (inner ++ after) place
  case true.true =>
    have hboth := hopen (inner ++ '-' :: after)
      (place + if offset + 2 + byteLength inner ≤ place then 1 else 0)
    have hreached : offset + 2 ≤ place +
        (if offset + 2 + byteLength inner ≤ place then 1 else 0) ↔ offset + 2 ≤ place := by
      split_ifs <;> omega
    rw [← List.append_assoc, hclose] at hboth
    simpa [around, offsets, shift, List.countP_cons, hreached, ← Nat.add_assoc] using hboth

end Hyphens

/-! ## The tag with hyphens -/

/-- A hyphen does not close a tag, nor is it part of what closes one. -/
theorem Uncut.insert {kind : TagKind} {cs ds : List Char} (h : Uncut kind (cs ++ ds)) :
    Uncut kind (cs ++ '-' :: ds) := by
  have hfirst (d : Char) : kind.isClosedBy '-' d = false := by
    cases kind <;> rfl
  have hsecond (c : Char) : kind.isClosedBy c '-' = false := by
    simp [TagKind.isClosedBy]
  obtain ⟨hcs, hds, -⟩ := List.isChain_append.mp h
  refine List.isChain_append.mpr ⟨hcs, List.isChain_cons.mpr ⟨fun d _ => hfirst d, hds⟩, ?_⟩
  intro c _ d hd
  obtain rfl : '-' = d := Option.some.inj hd
  exact hsecond c

/-- The text of a tag is read the same way with hyphens. -/
theorem Hyphens.uncut_around (hyphens : Hyphens) {kind : TagKind} {inner rest : List Char}
    (h : Uncut kind (inner ++ rest)) : Uncut kind (hyphens.around inner ++ rest) := by
  have hclosing : Uncut kind (inner ++ (if hyphens.closing then ['-'] else []) ++ rest) := by
    cases hyphens.closing with
    | false => simpa using h
    | true => simpa using h.insert
  cases hopening : hyphens.opening with
  | false => simpa [around, hopening] using hclosing
  | true =>
    have hopened := (show Uncut kind ([] ++ _) from hclosing).insert
    simpa [around, hopening] using hopened

/-- Hyphens are no part of the content of a tag whose text neither begins nor ends with one. -/
theorem Hyphens.tagContent_around (hyphens : Hyphens) {inner : List Char}
    (hfirst : inner.head? ≠ some '-') (hlast : inner.getLast? ≠ some '-') :
    tagContent (hyphens.around inner) = tagContent inner := by
  -- In an empty text the hyphens touch each other, and either of them may be taken off first.
  rcases eq_or_ne inner [] with rfl | hempty
  · obtain ⟨_ | _, _ | _⟩ := hyphens <;> rfl
  · have hclosing : ∀ text, text = inner ∨ text = inner ++ ['-'] → text.head? ≠ some '-' ∧
        (if text.getLast? = some '-' then text.dropLast else text) = inner := by
      rintro text (rfl | rfl)
      · exact ⟨hfirst, if_neg hlast⟩
      · rw [List.head?_append_of_ne_nil _ hempty]
        exact ⟨hfirst, by simp⟩
    have hbare (text : List Char) (h : text = inner ∨ text = inner ++ ['-']) :
        tagContent text = trimChars inner := by
      rw [tagContent, if_neg (hclosing text h).1, (hclosing text h).2]
    have hopened (text : List Char) (h : text = inner ∨ text = inner ++ ['-']) :
        tagContent ('-' :: text) = trimChars inner := by
      rw [tagContent, if_pos List.head?_cons, List.tail_cons, (hclosing text h).2]
    rw [hbare inner (.inl rfl)]
    obtain ⟨_ | _, _ | _⟩ := hyphens
    · exact hbare _ (.inl (by simp [around]))
    · exact hbare _ (.inr (by simp [around]))
    · simpa [around] using hopened inner (.inl rfl)
    · simpa [around] using hopened _ (.inr rfl)

/-- With hyphens a tag says the same. -/
theorem Hyphens.saysSame_around (hyphens : Hyphens) (kind : TagKind) {inner : List Char}
    (closed : Bool) (hfirst : inner.head? ≠ some '-') (hlast : inner.getLast? ≠ some '-') :
    (Piece.tag kind inner closed).SaysSame (.tag kind (hyphens.around inner) closed) := by
  have hcontent := hyphens.tagContent_around hfirst hlast
  cases kind with
  | statement => exact ⟨rfl, hcontent, congrArg Role.ofContent hcontent, rfl⟩
  | expression => exact ⟨rfl, hcontent, rfl, rfl⟩
  | comment => exact ⟨rfl, hcontent, rfl, rfl⟩

/-- Pieces follow the grammar with another tag in place of one of them, if its text can be read
wherever that of the other can. -/
theorem Lexed.replace {kind : TagKind} {inner text : List Char} {closed : Bool}
    {before after : List Piece} (h : Lexed (before ++ .tag kind inner closed :: after))
    (htext : ∀ rest, Uncut kind (inner ++ rest) → Uncut kind (text ++ rest)) :
    Lexed (before ++ .tag kind text closed :: after) := by
  induction before with
  | nil =>
    rw [List.nil_append] at h ⊢
    cases h with
    | closed huncut hothers => exact .closed (htext _ huncut) hothers
    | unclosed huncut => exact .unclosed (by simpa using htext [] (by simpa using huncut))
  | cons piece before ih =>
    have hothers := ih h.tail
    rw [List.cons_append] at h ⊢
    cases piece with
    | markup run =>
      -- Markup stands only before a tag, which the tag that is put in is as well.
      cases before with
      | nil =>
        cases h with
        | between hempty hplain => exact .between hempty hplain hothers
      | cons next before =>
        rw [List.cons_append] at h hothers ⊢
        cases h with
        | between hempty hplain => exact .between hempty hplain hothers
    | tag kind' inner' closed' =>
      cases closed' with
      | true =>
        cases h with
        | closed huncut => exact .closed huncut hothers
      | false =>
        generalize hrest : before ++ .tag kind inner closed :: after = rest at h
        cases h
        exact absurd hrest (by simp)

/-- The bytes of a tag are those of its delimiters and its text. -/
theorem width_tag (kind : TagKind) (inner : List Char) (closed : Bool) :
    (Piece.tag kind inner closed).width = 2 + byteLength inner + if closed then 2 else 0 := by
  have hdelimiter : byteLength (if closed then [kind.closing, '}'] else []) =
      if closed then 2 else 0 := by
    cases closed with
    | false => rfl
    | true => exact byteLength_closing kind
  have hchars : (Piece.tag kind inner closed).chars =
      ['{', kind.opening] ++ inner ++ if closed then [kind.closing, '}'] else [] := rfl
  rw [Piece.width, hchars, byteLength_append, byteLength_append, byteLength_opening, hdelimiter]

/-- The pieces before a tag keep their offsets, and those behind it are moved by all hyphens. -/
theorem Hyphens.carries (hyphens : Hyphens) (before after : List Piece) (kind : TagKind)
    {inner : List Char} (closed : Bool) (hfirst : inner.head? ≠ some '-')
    (hlast : inner.getLast? ≠ some '-') :
    Carries (shift (hyphens.offsets (extent before) inner)) 0
      (before ++ .tag kind inner closed :: after)
      (before ++ .tag kind (hyphens.around inner) closed :: after) := by
  have hkept : ∀ place ≤ extent before,
      shift (hyphens.offsets (extent before) inner) place = place :=
    fun place hplace => shift_of_lt fun inserted hinserted =>
      Nat.lt_of_le_of_lt hplace (hyphens.mem_offsets inner hinserted).1
  have hmoved : ∀ place, extent before + (Piece.tag kind inner closed).width ≤ place →
      shift (hyphens.offsets (extent before) inner) place =
        place + (hyphens.offsets (extent before) inner).length := by
    refine fun place hplace => shift_of_le fun inserted hinserted => ?_
    have hwithin := (hyphens.mem_offsets inner hinserted).2
    rw [width_tag] at hplace
    omega
  refine .append (.rigid fun length hlength => ?before)
    (.cons (hyphens.saysSame_around kind closed hfirst hlast) ?tag (.rigid fun length _ => ?after))
  case before => rw [Nat.zero_add, hkept _ hlength, hkept 0 (Nat.zero_le _), Nat.zero_add]
  case tag =>
    rw [Nat.zero_add, hmoved _ (Nat.le_refl _), hkept _ (Nat.le_refl _), width_tag, width_tag,
      hyphens.byteLength_around inner (extent before)]
    omega
  case after =>
    rw [Nat.zero_add, hmoved _ (Nat.le_add_right _ _), hmoved _ (Nat.le_refl _)]
    omega

/-- The text of a tag among the characters of some pieces. -/
theorem flatMap_chars_tag (before after : List Piece) (kind : TagKind) (inner : List Char)
    (closed : Bool) :
    (before ++ .tag kind inner closed :: after).flatMap Piece.chars =
      before.flatMap Piece.chars ++ ['{', kind.opening] ++ inner ++
        ((if closed then [kind.closing, '}'] else []) ++ after.flatMap Piece.chars) := by
  simp [chars_tag]

/-- Hyphens at the delimiters of a tag whose text neither begins nor ends with one change nothing
but byte offsets. With a hyphen put in right after the opening delimiter, right before the closing
one (or at the end of a tag that has none), or both, the tree has the same shape, kinds and
contents, the faults are the same, and every span goes where the hyphens move its ends. -/
theorem hyphens_move_offsets {source : List Char} {offset : Nat} {kind : TagKind}
    {inner : List Char} {closed : Bool}
    (htag : (offset, Piece.tag kind inner closed) ∈ located 0 (pieces source))
    (hfirst : inner.head? ≠ some '-') (hlast : inner.getLast? ≠ some '-') (hyphens : Hyphens) :
    segment ((hyphens.offsets offset inner).foldr (insertAt '-') source) =
      (segment source).relocate (shift (hyphens.offsets offset inner)) := by
  obtain ⟨before, after, hpieces, hoffset⟩ := mem_located htag
  simp only [Nat.zero_add] at hpieces hoffset
  subst hoffset
  have hchars : source = before.flatMap Piece.chars ++ ['{', kind.opening] ++ inner ++
      ((if closed then [kind.closing, '}'] else []) ++ after.flatMap Piece.chars) := by
    rw [← flatMap_chars_tag, ← hpieces, flatMap_chars_pieces]
  have hopening : byteLength (before.flatMap Piece.chars ++ ['{', kind.opening]) =
      extent before + 2 := by
    rw [byteLength_append, byteLength_opening, extent]
  have hinserted : (hyphens.offsets (extent before) inner).foldr (insertAt '-') source =
      before.flatMap Piece.chars ++ ['{', kind.opening] ++ hyphens.around inner ++
        ((if closed then [kind.closing, '}'] else []) ++ after.flatMap Piece.chars) := by
    rw [hchars, hyphens.foldr_insertAt inner hopening]
  have hread : pieces ((hyphens.offsets (extent before) inner).foldr (insertAt '-') source) =
      before ++ .tag kind (hyphens.around inner) closed :: after := by
    have hlexed := ((lexes_iff _ source).mpr rfl).lexed
    rw [hpieces] at hlexed
    rw [hinserted, ← flatMap_chars_tag]
    exact pieces_of_lexed (hlexed.replace fun _ => hyphens.uncut_around)
  refine segment_eq_relocate (monotone_shift _) ?zero (fun place => ?line) ?pieces
  case zero =>
    exact shift_of_lt fun place hplace =>
      Nat.lt_of_le_of_lt (Nat.zero_le _) (hyphens.mem_offsets inner hplace).1
  case line =>
    rw [hinserted, hyphens.lineAt_shift inner hopening, ← hchars]
  case pieces =>
    rw [hread, hpieces]
    exact hyphens.carries before after kind closed hfirst hlast

/-- Hyphens in a tag before a stray brace, in a template with two faults behind them. -/
theorem hyphens_move_offsets_before_brace :
    let source := "ü\n\x7b%if a%\x7d\x7d\x7b\x7b\x7d\x7d\x7b%".toList
    let inner := "if a".toList
    (3, Piece.tag .statement inner true) ∈ located 0 (pieces source) ∧
    inner.head? ≠ some '-' ∧ inner.getLast? ≠ some '-' ∧
    (segment source).errors = [.unclosedTag .statement 2, .unclosedSection "if" 2] ∧
    segment "ü\n\x7b%-if a-%\x7d\x7d\x7b\x7b\x7d\x7d\x7b%".toList =
      (segment source).relocate (shift [5, 9]) := by
  intro source inner
  have htag : (3, Piece.tag .statement inner true) ∈ located 0 (pieces source) := by
    decide +kernel
  have hfirst : inner.head? ≠ some '-' := by decide
  have hlast : inner.getLast? ≠ some '-' := by decide
  exact ⟨htag, hfirst, hlast, by decide +kernel,
    hyphens_move_offsets htag hfirst hlast ⟨true, true⟩⟩

end TemplateInspector.Template
