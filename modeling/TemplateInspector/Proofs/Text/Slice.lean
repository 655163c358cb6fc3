import TemplateInspector.Text.Line

/-!
# Byte offsets and slices

A byte offset falls between two characters when some first characters of the text have that many
bytes. A slice of a text has both ends there, so it is a text again. The line of such an offset
counts the line feeds among those first characters.
-/

namespace TemplateInspector.Text

@[simp] theorem byteLength_nil : byteLength [] = 0 := rfl

@[simp] theorem byteLength_cons (c : Char) (cs : List Char) :
    byteLength (c :: cs) = c.utf8Size + byteLength cs := by
  rw [byteLength, List.map_cons, List.foldl_cons, Nat.add_comm 0, List.foldl_assoc, byteLength]

@[simp] theorem byteLength_append (cs ds : List Char) :
    byteLength (cs ++ ds) = byteLength cs + byteLength ds := by
  induction cs with
  | nil => rw [List.nil_append, byteLength_nil, Nat.zero_add]
  | cons c cs ih => rw [List.cons_append, byteLength_cons, byteLength_cons, ih, Nat.add_assoc]

/-- A text with characters has bytes. -/
theorem byteLength_pos {cs : List Char} (h : cs ≠ []) : 0 < byteLength cs := by
  obtain ⟨c, rest, rfl⟩ := List.exists_cons_of_ne_nil h
  have hc := c.utf8Size_pos
  rw [byteLength_cons]
  omega

/-- The characters `chars` stand in a text from one byte offset to another, and both offsets fall
between characters. -/
def IsSlice (source : List Char) (start stop : Nat) (chars : List Char) : Prop :=
  ∃ before after, source = before ++ chars ++ after ∧ byteLength before = start ∧
    start + byteLength chars = stop

/-- The line after some characters is one more than the line feeds among them. -/
theorem lineAt_byteLength (before rest : List Char) :
    lineAt (before ++ rest) (byteLength before) = 1 + before.count '\n' := by
  induction before with
  | nil => cases rest <;> rfl
  | cons c before ih =>
    have hc := c.utf8Size_pos
    rw [List.cons_append, byteLength_cons, lineAt, if_neg (by omega), Nat.add_sub_cancel_left, ih,
      List.count_cons]
    simp only [beq_iff_eq]
    omega

/-- Lines count from one. -/
theorem one_le_lineAt (source : List Char) (offset : Nat) : 1 ≤ lineAt source offset := by
  induction source generalizing offset with
  | nil => exact Nat.le_refl 1
  | cons c rest ih =>
    rw [lineAt]
    split
    · exact Nat.le_refl 1
    · exact Nat.le_trans (ih _) (Nat.le_add_left _ _)

/-- Lines do not run backwards. -/
theorem lineAt_mono (source : List Char) {offset later : Nat} (h : offset ≤ later) :
    lineAt source offset ≤ lineAt source later := by
  induction source generalizing offset later with
  | nil => exact Nat.le_refl 1
  | cons c rest ih =>
    by_cases hoffset : offset = 0
    · rw [lineAt, if_pos hoffset]
      exact one_le_lineAt _ _
    · have hlater : later ≠ 0 := by omega
      rw [lineAt, lineAt, if_neg hoffset, if_neg hlater]
      exact Nat.add_le_add_left (ih (Nat.sub_le_sub_right h _)) _

end TemplateInspector.Text
