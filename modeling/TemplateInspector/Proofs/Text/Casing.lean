import TemplateInspector.Text.Blank
import TemplateInspector.Text.Casing

/-!
# Names in a casing have no blanks

A name in a casing is made of the letters and digits of the name, of the forms that these take in
the other case, and of low lines. No letter or digit is blank, and no mapping between the cases
turns one into a blank. The latter is read off the tables: the code points to which a row leads lie
in one interval, and no blank lies in it.
-/

namespace TemplateInspector.Text

/-- The least and the greatest code points of the intervals in which the blanks lie. -/
def blankRanges : List (Int × Int) := [
  (9, 13), (0x20, 0x20), (0x85, 0x85), (0xa0, 0xa0), (0x1680, 0x1680), (0x2000, 0x200a),
  (0x2028, 0x2029), (0x202f, 0x202f), (0x205f, 0x205f), (0x3000, 0x3000)]

/-- A blank lies in one of these intervals. -/
theorem exists_range_of_isBlank {c : Char} (h : isBlank c = true) :
    ∃ range ∈ blankRanges, range.1 ≤ c.toNat ∧ c.toNat ≤ range.2 := by
  simp only [isBlank, Bool.or_eq_true, Bool.and_eq_true, decide_eq_true_eq, beq_iff_eq] at h
  simp only [blankRanges, List.mem_cons, List.not_mem_nil, or_false, exists_eq_or_imp,
    exists_eq_left]
  omega

/-- Whether no blank lies between two code points. -/
def IsClear (low high : Int) : Prop :=
  ∀ range ∈ blankRanges, high < range.1 ∨ range.2 < low

instance (low high : Int) : Decidable (IsClear low high) :=
  inferInstanceAs (Decidable (∀ range ∈ blankRanges, high < range.1 ∨ range.2 < low))

/-- A character between two code points is not blank if no blank lies there. -/
theorem IsClear.isBlank {low high : Int} (h : IsClear low high) {c : Char} (hlow : low ≤ c.toNat)
    (hhigh : c.toNat ≤ high) : isBlank c = false := by
  refine Bool.eq_false_iff.mpr fun hblank => ?_
  obtain ⟨range, hrange, hfrom, hto⟩ := exists_range_of_isBlank hblank
  rcases h range hrange with hbelow | habove
  · exact absurd (Int.le_trans hfrom hhigh) (Int.not_le.mpr hbelow)
  · exact absurd (Int.le_trans hlow hto) (Int.not_le.mpr habove)

/-- No letter or digit is blank. -/
theorem isBlank_of_isAlphanumeric {c : Char} (h : isAlphanumeric c = true) : isBlank c = false := by
  have hclear : ∀ range ∈ alphanumericRanges, IsClear range.1 range.2 := by decide +kernel
  obtain ⟨range, hrange, hbetween⟩ := List.any_eq_true.mp h
  simp only [Bool.and_eq_true, decide_eq_true_eq] at hbetween
  exact (hclear range hrange).isBlank (Int.ofNat_le.mpr hbetween.1) (Int.ofNat_le.mpr hbetween.2)

/-! ## Letters in the other case -/

/-- Some characters none of which is blank. -/
def IsSolid (cs : List Char) : Prop :=
  ∀ c ∈ cs, isBlank c = false

instance (cs : List Char) : Decidable (IsSolid cs) :=
  List.decidableBAll (fun c => isBlank c = false) cs

@[simp] theorem isSolid_nil : IsSolid [] := by
  simp [IsSolid]

@[simp] theorem isSolid_cons {c : Char} {cs : List Char} :
    IsSolid (c :: cs) ↔ isBlank c = false ∧ IsSolid cs :=
  List.forall_mem_cons

@[simp] theorem isSolid_append {cs others : List Char} :
    IsSolid (cs ++ others) ↔ IsSolid cs ∧ IsSolid others :=
  List.forall_mem_append

@[simp] theorem isSolid_reverse {cs : List Char} : IsSolid cs.reverse ↔ IsSolid cs := by
  simp [IsSolid]

/-- The character with a number is that one, or the first one of all if there is none. -/
theorem toNat_ofNat_or (n : Int) :
    ((Char.ofNat n.toNat).toNat : Int) = n ∨ Char.ofNat n.toNat = '\x00' := by
  cases n with
  | negSucc n => exact .inr rfl
  | ofNat n =>
    by_cases hvalid : n.isValidChar
    · exact .inl (congrArg (fun c : Char => (c.toNat : Int)) (dif_pos hvalid))
    · exact .inr (dif_neg hvalid)

/-- A table whose rows lead to no blanks turns no character into one. -/
theorem isBlank_shiftCase {table : List CaseShift}
    (h : ∀ row ∈ table, IsClear (row.first + row.distance) (row.last + row.distance)) {c : Char}
    (hc : isBlank c = false) : isBlank (shiftCase table c) = false := by
  unfold shiftCase
  split
  case h_2 => exact hc
  case h_1 row hfind =>
    have hcontains := List.find?_some hfind
    simp only [Progression.contains, Bool.and_eq_true, decide_eq_true_eq] at hcontains
    obtain ⟨⟨hfirst, hlast⟩, -⟩ := hcontains
    rcases toNat_ofNat_or (c.toNat + row.distance) with htarget | hzero
    · refine (h row (List.mem_of_find?_eq_some hfind)).isBlank ?_ ?_
      · rw [htarget]
        exact Int.add_le_add_right (Int.ofNat_le.mpr hfirst) _
      · rw [htarget]
        exact Int.add_le_add_right (Int.ofNat_le.mpr hlast) _
    · rw [hzero]
      rfl

/-- The uppercase form of a character that is not blank has no blanks. -/
theorem isSolid_raise {c : Char} (hc : isBlank c = false) : IsSolid (raise c) := by
  have hlong : ∀ row ∈ raiseLongTable, IsSolid (row.2.map Char.ofNat) := by decide +kernel
  have hshort : ∀ row ∈ raiseTable,
      IsClear (row.first + row.distance) (row.last + row.distance) := by decide +kernel
  unfold raise
  split
  case h_1 code codes hfind => exact hlong _ (List.mem_of_find?_eq_some hfind)
  case h_2 => exact isSolid_cons.mpr ⟨isBlank_shiftCase hshort hc, isSolid_nil⟩

/-- Nor has its lowercase form. -/
theorem isSolid_lower {c : Char} (hc : isBlank c = false) : IsSolid (lower c) := by
  have hshort : ∀ row ∈ lowerTable,
      IsClear (row.first + row.distance) (row.last + row.distance) := by decide +kernel
  unfold lower
  split
  case isTrue => decide
  case isFalse => exact isSolid_cons.mpr ⟨isBlank_shiftCase hshort hc, isSolid_nil⟩

/-- A word in lowercase has no blanks if it had none. -/
theorem isSolid_lowerWord {word : List Char} (h : IsSolid word) : IsSolid (lowerWord word) := by
  fun_induction lowerWord word with
  | case1 => exact isSolid_nil
  | case2 => decide
  | case3 => exact isSolid_lower (isSolid_cons.mp h).1
  | case4 c d rest ih =>
    obtain ⟨hc, hrest⟩ := isSolid_cons.mp h
    exact isSolid_append.mpr ⟨isSolid_lower hc, ih hrest⟩

/-- Nor has a word with a capital. -/
theorem isSolid_capitalWord {word : List Char} (h : IsSolid word) : IsSolid (capitalWord word) := by
  cases word with
  | nil => exact isSolid_nil
  | cons c rest =>
    obtain ⟨hc, hrest⟩ := isSolid_cons.mp h
    exact isSolid_append.mpr ⟨isSolid_raise hc, isSolid_lowerWord hrest⟩

/-! ## Names -/

/-- The pieces of a name are made of letters and digits. -/
theorem isSolid_of_mem_alphanumericPieces {run cs : List Char} (hrun : IsSolid run) :
    ∀ piece ∈ alphanumericPieces run cs, IsSolid piece := by
  induction cs generalizing run with
  | nil =>
    rw [alphanumericPieces]
    split
    · simp
    · simpa using hrun
  | cons c rest ih =>
    rw [alphanumericPieces]
    split
    case isTrue hc => exact ih (isSolid_cons.mpr ⟨isBlank_of_isAlphanumeric hc, hrun⟩)
    case isFalse =>
      split
      · exact ih isSolid_nil
      · exact List.forall_mem_cons.mpr ⟨isSolid_reverse.mpr hrun, ih isSolid_nil⟩

/-- The words of a piece are made of its characters. -/
theorem isSolid_of_mem_pieceWords {mode : WordCase} {run cs : List Char} (hrun : IsSolid run)
    (hcs : IsSolid cs) : ∀ word ∈ pieceWords mode run cs, IsSolid word := by
  fun_induction pieceWords mode run cs with
  | case1 => simp
  | case2 => simpa using hrun
  | case3 mode run c =>
    obtain ⟨hc, -⟩ := isSolid_cons.mp hcs
    simpa using And.intro hrun hc
  | case4 mode run c d rest next _ ih =>
    obtain ⟨hc, hrest⟩ := isSolid_cons.mp hcs
    refine List.forall_mem_cons.mpr ⟨?_, ih isSolid_nil hrest⟩
    exact isSolid_reverse.mpr (isSolid_cons.mpr ⟨hc, hrun⟩)
  | case5 mode run c d rest next _ _ ih =>
    obtain ⟨hc, hrest⟩ := isSolid_cons.mp hcs
    refine List.forall_mem_append.mpr ⟨?_, ih (isSolid_cons.mpr ⟨hc, isSolid_nil⟩) hrest⟩
    split
    · simp
    · simpa using hrun
  | case6 mode run c d rest next _ _ ih =>
    obtain ⟨hc, hrest⟩ := isSolid_cons.mp hcs
    exact ih (isSolid_cons.mpr ⟨hc, hrun⟩) hrest

/-- The words of a name have no blanks. -/
theorem isSolid_of_mem_nameWords {name : String} : ∀ word ∈ nameWords name, IsSolid word := by
  intro word hword
  obtain ⟨piece, hpiece, hword⟩ := List.mem_flatMap.mp hword
  exact isSolid_of_mem_pieceWords isSolid_nil
    (isSolid_of_mem_alphanumericPieces isSolid_nil piece hpiece) word hword

/-- Words that have no blanks have none when they are written one after another. -/
theorem isSolid_flatMap {words : List (List Char)} {write : List Char → List Char}
    (hwrite : ∀ {word}, IsSolid word → IsSolid (write word)) (h : ∀ word ∈ words, IsSolid word) :
    IsSolid (words.flatMap write) := by
  intro c hc
  obtain ⟨word, hword, hc⟩ := List.mem_flatMap.mp hc
  exact hwrite (h word hword) c hc

/-- A name has no blanks in `TypeName` casing. -/
theorem isSolid_upperCamelCase (name : String) : IsSolid (upperCamelCase name).toList := by
  rw [upperCamelCase, String.toList_ofList]
  exact isSolid_flatMap isSolid_capitalWord isSolid_of_mem_nameWords

/-- Nor has it in `methodName` casing. -/
theorem isSolid_lowerCamelCase (name : String) : IsSolid (lowerCamelCase name).toList := by
  have hwords := @isSolid_of_mem_nameWords name
  rw [lowerCamelCase, String.toList_ofList]
  split
  case h_1 => exact isSolid_nil
  case h_2 first others hname =>
    rw [hname] at hwords
    obtain ⟨hfirst, hothers⟩ := List.forall_mem_cons.mp hwords
    exact isSolid_append.mpr
      ⟨isSolid_lowerWord hfirst, isSolid_flatMap isSolid_capitalWord hothers⟩

/-- Words that have no blanks have none when they are joined. -/
theorem isSolid_intercalate {separator : List Char} (hseparator : IsSolid separator)
    {words : List (List Char)} (h : ∀ word ∈ words, IsSolid word) :
    IsSolid (separator.intercalate words) := by
  induction words with
  | nil => exact isSolid_nil
  | cons word others ih =>
    obtain ⟨hword, hothers⟩ := List.forall_mem_cons.mp h
    cases others with
    | nil => simpa [List.intercalate] using hword
    | cons next others =>
      rw [List.intercalate_cons_cons]
      exact isSolid_append.mpr ⟨isSolid_append.mpr ⟨hword, hseparator⟩, ih hothers⟩

/-- Nor has it in `method_name` casing. -/
theorem isSolid_snakeCase (name : String) : IsSolid (snakeCase name).toList := by
  rw [snakeCase, String.toList_ofList]
  refine isSolid_intercalate (by decide) fun word hword => ?_
  obtain ⟨other, hother, rfl⟩ := List.mem_map.mp hword
  exact isSolid_lowerWord (isSolid_of_mem_nameWords other hother)

end TemplateInspector.Text
