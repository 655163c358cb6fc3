import Mathlib.Data.List.Infix
import TemplateInspector.Text.Blank
import TemplateInspector.Text.Line

/-!
# What stands on the lines of a text

Lines that are each ended by a line feed are the lines of the text that they make. The other way
round, whatever stands in a text without a line feed among it stands on one of the lines, and
trimming a line takes away nothing between two characters that are not blank. So a carriage return
is left on a trimmed line exactly if it stands between two such characters there.
-/

namespace TemplateInspector.Text

/-! ## Lines and line ends -/

/-- A text that stands on one line of a file and is told apart from the line's end. -/
structure IsLine (line : String) : Prop where
  /-- It holds no line feed. -/
  lineFeed : '\n' ∉ line.toList
  /-- It does not end in a carriage return, which would belong to the line's end. -/
  carriageReturn : line.toList.getLast? ≠ some '\r'

instance (line : String) : Decidable (IsLine line) :=
  decidable_of_iff ('\n' ∉ line.toList ∧ line.toList.getLast? ≠ some '\r')
    ⟨fun h => ⟨h.1, h.2⟩, fun h => ⟨h.1, h.2⟩⟩

/-- The first line ends at the first line feed. -/
theorem linesAfter_append {line : List Char} (h : '\n' ∉ line) (run rest : List Char) :
    linesAfter run (line ++ '\n' :: rest) =
      finishLine (line.reverse ++ run) :: linesAfter [] rest := by
  induction line generalizing run with
  | nil => simp [linesAfter]
  | cons c line ih =>
    obtain ⟨hc, hline⟩ := not_or.mp (mt List.mem_cons.mpr h)
    simp only [List.cons_append, linesAfter, Ne.symm hc, ite_false, ih hline, List.reverse_cons,
      List.append_assoc, List.nil_append]

/-- Without a carriage return at its end a line is finished as it is. -/
theorem finishLine_reverse {line : List Char} (h : line.getLast? ≠ some '\r') :
    finishLine line.reverse = line := by
  rw [← List.head?_reverse] at h
  unfold finishLine
  split
  case h_1 run hrun => simp [hrun] at h
  case h_2 => exact List.reverse_reverse line

/-- What ends in a line is one if there is no line feed before. -/
theorem IsLine.append {line : String} (h : IsLine line) (hsome : line ≠ "") {before : String}
    (hbefore : '\n' ∉ before.toList) : IsLine (before ++ line) := by
  have hchars : line.toList ≠ [] := fun hnone => hsome (String.toList_eq_nil_iff.mp hnone)
  constructor
  · rw [String.toList_append, List.mem_append, not_or]
    exact ⟨hbefore, h.lineFeed⟩
  · rw [String.toList_append, List.getLast?_append_of_ne_nil _ hchars]
    exact h.carriageReturn

/-- A line without a carriage return at its end, which belongs to the line's end. -/
def withoutReturn (line : String) : String :=
  String.ofList (finishLine line.toList.reverse)

/-- Such a line is left as it is if it does not end in a carriage return. -/
theorem IsLine.withoutReturn_eq {line : String} (h : IsLine line) : withoutReturn line = line := by
  rw [withoutReturn, finishLine_reverse h.carriageReturn, String.ofList_toList]

/-- A carriage return at the end is one of what is written behind a line. -/
theorem IsLine.withoutReturn_append {line : String} (h : IsLine line) (more : String) :
    withoutReturn (line ++ more) = line ++ withoutReturn more := by
  rw [← String.toList_inj, String.toList_append]
  simp only [withoutReturn, String.toList_ofList, String.toList_append, List.reverse_append]
  rcases hmore : more.toList.reverse with _ | ⟨c, run⟩
  · rw [List.nil_append, finishLine_reverse h.carriageReturn]
    exact (List.append_nil _).symm
  · rw [List.cons_append]
    by_cases hc : c = '\r'
    · simp [hc, finishLine]
    · have hkept (run : List Char) : finishLine (c :: run) = (c :: run).reverse := by
        unfold finishLine
        split
        case h_1 heq => exact absurd (List.cons.inj heq).1 hc
        case h_2 => rfl
      simp [hkept]

/-- Texts without line feeds that are each ended by one are the lines of the text that they make,
but for carriage returns at their ends. -/
theorem lines_join_map {ls : List String} (h : ∀ line ∈ ls, '\n' ∉ line.toList) :
    lines (String.join (ls.map (· ++ "\n"))) = ls.map withoutReturn := by
  have hchars : lineChars (ls.flatMap fun line => line.toList ++ ['\n']) =
      ls.map fun line => finishLine line.toList.reverse := by
    induction ls with
    | nil => rfl
    | cons line ls ih =>
      obtain ⟨hfirst, hrest⟩ := List.forall_mem_cons.mp h
      rw [List.flatMap_cons, List.append_assoc, List.singleton_append, lineChars,
        linesAfter_append hfirst, List.append_nil, ← lineChars, ih hrest, List.map_cons]
  rw [lines, String.toList_join, List.flatMap_map]
  simp only [String.toList_append]
  exact (congrArg (List.map String.ofList) hchars).trans List.map_map

/-- Lines that are each ended by a line feed are the lines of the text that they make. -/
theorem lines_join {ls : List String} (h : ∀ line ∈ ls, IsLine line) :
    lines (String.join (ls.map (· ++ "\n"))) = ls := by
  calc lines (String.join (ls.map (· ++ "\n")))
      _ = ls.map withoutReturn := lines_join_map fun line hline => (h line hline).lineFeed
      _ = ls.map id := List.map_congr_left fun line hline => (h line hline).withoutReturn_eq
      _ = ls := List.map_id ls

/-! ## What stands on one line -/

/-- A finished line is what was read of it, but for a carriage return at the end. -/
theorem isPrefix_finishLine (run : List Char) : finishLine run <+: run.reverse := by
  unfold finishLine
  split
  case h_1 run =>
    rw [List.reverse_cons]
    exact List.prefix_append ..
  case h_2 => exact List.prefix_rfl

/-- No line holds a line feed. -/
theorem lineFeed_not_mem_linesAfter {run : List Char} (h : '\n' ∉ run) (cs : List Char) :
    ∀ line ∈ linesAfter run cs, '\n' ∉ line := by
  induction cs generalizing run with
  | nil =>
    rw [linesAfter]
    split
    · exact fun line hline => absurd hline List.not_mem_nil
    · simpa using h
  | cons c rest ih =>
    rw [linesAfter]
    split
    case isTrue =>
      refine List.forall_mem_cons.mpr ⟨fun hmem => h ?_, ih List.not_mem_nil⟩
      exact List.mem_reverse.mp ((isPrefix_finishLine run).subset hmem)
    case isFalse hc => exact ih (List.not_mem_cons_of_ne_of_not_mem (Ne.symm hc) h)

/-- Characters without a separator among them stand on one side of it. -/
theorem infix_append_cons_iff {c : Char} {chars before after : List Char} (h : c ∉ chars) :
    chars <:+: before ++ c :: after ↔ chars <:+: before ∨ chars <:+: after := by
  rw [List.infix_append_iff, List.infix_cons_iff]
  constructor
  · rintro (hbefore | (hstart | hafter) | ⟨first, second, rfl, hfirst, hsecond⟩)
    · exact .inl hbefore
    · rcases List.prefix_cons_iff.mp hstart with rfl | ⟨others, rfl, -⟩
      · exact .inl (List.nil_infix)
      · exact absurd List.mem_cons_self h
    · exact .inr hafter
    · rcases List.prefix_cons_iff.mp hsecond with rfl | ⟨others, rfl, -⟩
      · rw [List.append_nil]
        exact .inl hfirst.isInfix
      · exact absurd (List.mem_append_right _ List.mem_cons_self) h
  · rintro (hbefore | hafter)
    · exact .inl hbefore
    · exact .inr (.inl (.inr hafter))

/-- Characters that do not end in a carriage return stand on a line before its end. -/
theorem infix_finishLine_iff {chars run : List Char} (h : chars.getLast? ≠ some '\r') :
    chars <:+: finishLine run ↔ chars <:+: run.reverse := by
  refine ⟨fun hline => hline.trans (isPrefix_finishLine run).isInfix, fun hrun => ?_⟩
  unfold finishLine
  split
  case h_1 run =>
    rw [List.reverse_cons, List.infix_concat_iff, List.suffix_concat_iff] at hrun
    rcases hrun with (rfl | ⟨others, rfl, -⟩) | hline
    · exact List.nil_infix
    · exact absurd List.getLast?_concat h
    · exact hline
  case h_2 => exact hrun

/-- Characters without a line feed among them, and without a carriage return at the end, stand in a
text exactly if they stand on one of its lines. -/
theorem infix_iff_exists_line {chars : List Char} (hempty : chars ≠ []) (hfeed : '\n' ∉ chars)
    (hreturn : chars.getLast? ≠ some '\r') (cs : List Char) :
    chars <:+: cs ↔ ∃ line ∈ lineChars cs, chars <:+: line := by
  suffices hrun : ∀ run, chars <:+: run.reverse ++ cs ↔
      ∃ line ∈ linesAfter run cs, chars <:+: line from hrun []
  intro run
  induction cs generalizing run with
  | nil =>
    rw [linesAfter, List.append_nil]
    split
    case isTrue hnone =>
      rw [List.isEmpty_iff.mp hnone]
      simpa using hempty
    case isFalse => simp
  | cons c rest ih =>
    rw [linesAfter]
    split
    case isTrue hc =>
      rw [hc, infix_append_cons_iff hfeed, List.exists_mem_cons_iff, infix_finishLine_iff hreturn,
        ← ih []]
      rfl
    case isFalse =>
      rw [← ih (c :: run), List.reverse_cons, List.append_assoc, List.singleton_append]

/-- A character that is not blank stands in a text exactly if it stands on one of its lines. -/
theorem mem_iff_exists_line {c : Char} (hc : isBlank c = false) (cs : List Char) :
    c ∈ cs ↔ ∃ line ∈ lineChars cs, c ∈ line := by
  have hends : '\n' ≠ c ∧ '\r' ≠ c := by constructor <;> rintro rfl <;> cases hc
  have hstands := infix_iff_exists_line (List.cons_ne_nil c []) (by simpa using hends.1)
    (by simpa using hends.2.symm) cs
  simpa only [List.singleton_infix_iff] using hstands

/-- A text is blank exactly if its lines are. -/
theorem isBlankText_iff_lines (text : String) :
    isBlankText text = true ↔ ∀ line ∈ lines text, isBlankText line = true := by
  simp only [isBlankText, lines, List.forall_mem_map, String.toList_ofList, List.all_eq_true]
  constructor
  · intro hblank line hline c hc
    by_contra hnot
    have hmem := (mem_iff_exists_line (eq_false_of_ne_true hnot) _).mpr ⟨line, hline, hc⟩
    exact hnot (hblank c hmem)
  · intro hblank c hc
    by_contra hnot
    obtain ⟨line, hline, hmem⟩ := (mem_iff_exists_line (eq_false_of_ne_true hnot) _).mp hc
    exact hnot (hblank line hline c hmem)

/-- Characters have no lines only if there are none. -/
theorem linesAfter_eq_nil_iff {run cs : List Char} :
    linesAfter run cs = [] ↔ run = [] ∧ cs = [] := by
  induction cs generalizing run with
  | nil => cases run <;> simp [linesAfter]
  | cons c rest ih =>
    rw [linesAfter]
    split
    case isTrue => simp
    case isFalse => simp [ih]

/-- Only the empty text has no lines. -/
theorem lines_eq_nil_iff {text : String} : lines text = [] ↔ text = "" := by
  rw [lines, List.map_eq_nil_iff, lineChars, linesAfter_eq_nil_iff]
  simp

/-! ## What trimming leaves -/

/-- Leading blanks end at the first character that is not blank. -/
theorem dropBlanks_append_cons {x : Char} (h : isBlank x = false) (cs rest : List Char) :
    dropBlanks (cs ++ x :: rest) = dropBlanks cs ++ x :: rest := by
  rw [dropBlanks, List.dropWhile_append, List.dropWhile_cons_of_neg (by simp [h])]
  split
  case isTrue hnone => rw [dropBlanks, List.isEmpty_iff.mp hnone, List.nil_append]
  case isFalse => rfl

/-- Trailing blanks begin after the last character that is not blank. -/
theorem dropBlanksEnd_append_cons {y : Char} (h : isBlank y = false) (rest cs : List Char) :
    dropBlanksEnd (rest ++ y :: cs) = rest ++ y :: dropBlanksEnd cs := by
  have hreverse : (rest ++ y :: cs).reverse = cs.reverse ++ y :: rest.reverse := by simp
  rw [dropBlanksEnd, hreverse, ← dropBlanks, dropBlanks_append_cons h]
  simp [dropBlanksEnd, dropBlanks]

/-- Trailing blanks stand at the end. -/
theorem isPrefix_dropBlanksEnd (cs : List Char) : dropBlanksEnd cs <+: cs := by
  rw [dropBlanksEnd, ← List.reverse_suffix, List.reverse_reverse]
  exact List.dropWhile_suffix _

/-- What is trimmed stands in the text. -/
theorem isInfix_trimChars (cs : List Char) : trimChars cs <:+: cs :=
  (isPrefix_dropBlanksEnd _).isInfix.trans (List.dropWhile_suffix _).isInfix

/-- Trailing blanks are all that is taken from the end. -/
theorem isBlankText_trimEnd (text : String) : isBlankText (trimEnd text) = isBlankText text := by
  rw [Bool.eq_iff_iff]
  simp only [isBlankText, trimEnd, String.toList_ofList, List.all_eq_true]
  refine ⟨fun h c hc => ?_, fun h c hc => h c ((isPrefix_dropBlanksEnd _).subset hc)⟩
  by_contra hnot
  obtain ⟨before, after, hchars⟩ := List.append_of_mem hc
  rw [hchars, dropBlanksEnd_append_cons (eq_false_of_ne_true hnot)] at h
  exact hnot (h c (List.mem_append_right _ List.mem_cons_self))

/-- What follows the leading blanks is the same whatever is added at the end. -/
theorem head?_dropBlanks_of_isPrefix {cs others : List Char} {c : Char} (h : cs <+: others)
    (hc : (dropBlanks cs).head? = some c) : (dropBlanks others).head? = some c := by
  obtain ⟨rest, rfl⟩ := h
  rw [dropBlanks] at hc
  rw [dropBlanks, List.dropWhile_append]
  split
  case isTrue hnone =>
    rw [List.isEmpty_iff.mp hnone] at hc
    cases hc
  case isFalse => rw [List.head?_append, hc, Option.some_or]

/-- What is left of leading blanks does not begin with one. -/
theorem isBlank_of_head?_dropBlanks {cs : List Char} {c : Char}
    (h : (dropBlanks cs).head? = some c) : isBlank c = false := by
  have hhead := List.head?_dropWhile_not isBlank cs
  rw [← dropBlanks, h] at hhead
  simpa using hhead

/-- What is trimmed does not begin with a blank. -/
theorem isBlank_of_head?_trimChars {cs : List Char} {c : Char}
    (h : (trimChars cs).head? = some c) : isBlank c = false := by
  obtain ⟨rest, hrest⟩ := isPrefix_dropBlanksEnd (dropBlanks cs)
  have hhead : (dropBlanks cs).head? = some c := by
    rw [← hrest, List.head?_append, ← trimChars, h]
    rfl
  exact isBlank_of_head?_dropBlanks hhead

/-- What is left of trailing blanks does not end with one. -/
theorem isBlank_of_getLast?_dropBlanksEnd {cs : List Char} {c : Char}
    (h : (dropBlanksEnd cs).getLast? = some c) : isBlank c = false := by
  rw [dropBlanksEnd, List.getLast?_reverse] at h
  exact isBlank_of_head?_dropBlanks h

/-- Nor does what is trimmed end with one. -/
theorem isBlank_of_getLast?_trimChars {cs : List Char} {c : Char}
    (h : (trimChars cs).getLast? = some c) : isBlank c = false :=
  isBlank_of_getLast?_dropBlanksEnd h

/-- Around a blank that is left by trimming, the ends of what is trimmed are not blank. -/
theorem ends_of_trimChars_eq {c : Char} {cs before after : List Char} (hc : isBlank c = true)
    (h : trimChars cs = before ++ c :: after) :
    ∃ x left right y, isBlank x = false ∧ isBlank y = false ∧ before = x :: left ∧
      after = right ++ [y] := by
  have hfirst : before ≠ [] := by
    rintro rfl
    have hhead : (trimChars cs).head? = some c := by rw [h]; rfl
    exact Bool.noConfusion (hc.symm.trans (isBlank_of_head?_trimChars hhead))
  have hlast : after ≠ [] := by
    rintro rfl
    have hend : (trimChars cs).getLast? = some c := by rw [h, List.getLast?_concat]
    exact Bool.noConfusion (hc.symm.trans (isBlank_of_getLast?_trimChars hend))
  obtain ⟨x, left, rfl⟩ := List.exists_cons_of_ne_nil hfirst
  obtain ⟨right, y, rfl⟩ := List.eq_nil_or_concat' after |>.resolve_left hlast
  have hhead : (trimChars cs).head? = some x := by rw [h]; rfl
  have hend : (trimChars cs).getLast? = some y := by
    rw [h, ← List.cons_append, ← List.append_assoc, List.getLast?_concat]
  exact ⟨x, left, right, y, isBlank_of_head?_trimChars hhead, isBlank_of_getLast?_trimChars hend,
    rfl, rfl⟩

/-- A blank is left by trimming exactly if it stands between two characters that are not blank. -/
theorem mem_trimChars_iff {c : Char} (hc : isBlank c = true) (cs : List Char) :
    c ∈ trimChars cs ↔ ∃ x left right y, isBlank x = false ∧ isBlank y = false ∧
      x :: left ++ c :: right ++ [y] <:+: cs := by
  constructor
  · intro hmem
    obtain ⟨before, after, htrim⟩ := List.append_of_mem hmem
    obtain ⟨x, left, right, y, hx, hy, rfl, rfl⟩ := ends_of_trimChars_eq hc htrim
    have hends : x :: left ++ c :: right ++ [y] = trimChars cs := by simp [htrim]
    exact ⟨x, left, right, y, hx, hy, hends ▸ isInfix_trimChars cs⟩
  · rintro ⟨x, left, right, y, hx, hy, before, after, rfl⟩
    have hbetween : before ++ (x :: left ++ c :: right ++ [y]) ++ after =
        before ++ x :: (left ++ c :: (right ++ y :: after)) := by simp
    have hend : dropBlanks before ++ x :: (left ++ c :: (right ++ y :: after)) =
        (dropBlanks before ++ x :: left ++ c :: right) ++ y :: after := by simp
    rw [trimChars, hbetween, dropBlanks_append_cons hx, hend, dropBlanksEnd_append_cons hy]
    simp

/-! ## Carriage returns within a line -/

/-- Whether a character ends a line in a language that takes carriage returns for line ends. -/
def endsLine (c : Char) : Bool :=
  c = '\n' || c = '\r'

/-- The lines of some characters for a language in which every line feed and every carriage return
ends a line. -/
def physicalLines (cs : List Char) : List (List Char) :=
  cs.splitOnP endsLine

/-- A text that is one line for such a language, too. -/
def IsPhysicalLine (line : String) : Prop :=
  ∀ c ∈ line.toList, endsLine c = false

/-- Such a text holds neither a line feed nor a carriage return. -/
theorem isPhysicalLine_iff {line : String} :
    IsPhysicalLine line ↔ '\n' ∉ line.toList ∧ '\r' ∉ line.toList := by
  simp only [IsPhysicalLine, endsLine, Bool.or_eq_false_iff, decide_eq_false_iff_not]
  refine ⟨fun h => ⟨fun hmem => (h _ hmem).1 rfl, fun hmem => (h _ hmem).2 rfl⟩, ?_⟩
  rintro ⟨hfeed, hreturn⟩ c hc
  exact ⟨fun heq => hfeed (heq ▸ hc), fun heq => hreturn (heq ▸ hc)⟩

instance (line : String) : Decidable (IsPhysicalLine line) :=
  decidable_of_iff _ isPhysicalLine_iff.symm

/-- Such a text is a line of a file. -/
theorem IsPhysicalLine.isLine {line : String} (h : IsPhysicalLine line) : IsLine line := by
  obtain ⟨hfeed, hreturn⟩ := isPhysicalLine_iff.mp h
  exact ⟨hfeed, fun hlast => hreturn (List.mem_of_getLast? hlast)⟩

/-- One line is all of its lines. -/
theorem IsPhysicalLine.physicalLines_eq {line : String} (h : IsPhysicalLine line) :
    physicalLines line.toList = [line.toList] :=
  List.splitOnP_eq_singleton h

@[simp] theorem isPhysicalLine_append {line more : String} :
    IsPhysicalLine (line ++ more) ↔ IsPhysicalLine line ∧ IsPhysicalLine more := by
  simp only [IsPhysicalLine, String.toList_append, List.mem_append, or_imp, forall_and]

/-- A text without blanks is one line. -/
theorem isPhysicalLine_of_isBlank {line : String} (h : ∀ c ∈ line.toList, isBlank c = false) :
    IsPhysicalLine line := by
  rw [isPhysicalLine_iff]
  exact ⟨fun hmem => Bool.noConfusion (h _ hmem), fun hmem => Bool.noConfusion (h _ hmem)⟩

/-- A number is written with digits alone. -/
theorem isDigit_of_mem_toString {n : Nat} {c : Char} (h : c ∈ (toString n).toList) :
    c.isDigit = true :=
  Nat.isDigit_of_mem_toDigits (b := 10) (by decide) (by decide) (Nat.toList_repr ▸ h)

/-- The digits of a number are one line. -/
@[simp] theorem isPhysicalLine_toString (n : Nat) : IsPhysicalLine (toString n) := by
  rw [isPhysicalLine_iff]
  exact ⟨fun hmem => Bool.noConfusion (isDigit_of_mem_toString hmem),
    fun hmem => Bool.noConfusion (isDigit_of_mem_toString hmem)⟩

/-- Characters among which a carriage return stands within a line: between two characters that are
not blank, and with no line feed between them. -/
def BreaksLine (cs : List Char) : Prop :=
  ∃ x left right y, isBlank x = false ∧ isBlank y = false ∧ '\n' ∉ left ++ right ∧
    x :: left ++ '\r' :: right ++ [y] <:+: cs

/-- What stands in characters without such a carriage return has none either. -/
theorem BreaksLine.of_isInfix {cs others : List Char} (h : BreaksLine cs) (hcs : cs <:+: others) :
    BreaksLine others := by
  obtain ⟨x, left, right, y, hx, hy, hfeed, hstands⟩ := h
  exact ⟨x, left, right, y, hx, hy, hfeed, hstands.trans hcs⟩

/-- No carriage return stands within one line. -/
theorem IsPhysicalLine.not_breaksLine {line : String} (h : IsPhysicalLine line) :
    ¬BreaksLine line.toList := by
  rintro ⟨x, left, right, y, -, -, -, hstands⟩
  exact (isPhysicalLine_iff.mp h).2 (hstands.subset (by simp))

/-- There is such a carriage return exactly if one is left on a line that is trimmed. -/
theorem breaksLine_iff (cs : List Char) :
    BreaksLine cs ↔ ∃ line ∈ lineChars cs, '\r' ∈ trimChars line := by
  have hstands {x y : Char} {left right : List Char} (hx : isBlank x = false)
      (hy : isBlank y = false) (hfeed : '\n' ∉ left ++ right) :
      x :: left ++ '\r' :: right ++ [y] <:+: cs ↔
        ∃ line ∈ lineChars cs, x :: left ++ '\r' :: right ++ [y] <:+: line := by
    have hends {z : Char} (hz : isBlank z = false) : '\n' ≠ z ∧ '\r' ≠ z := by
      constructor <;> rintro rfl <;> cases hz
    refine infix_iff_exists_line (by simp) ?_ ?_ cs
    · simp only [List.mem_append, not_or] at hfeed
      simp [hfeed, hends hx, hends hy]
    · rw [List.getLast?_concat]
      exact fun heq => (hends hy).2 (Option.some.inj heq).symm
  constructor
  · rintro ⟨x, left, right, y, hx, hy, hfeed, hwithin⟩
    obtain ⟨line, hline, hwithin⟩ := (hstands hx hy hfeed).mp hwithin
    exact ⟨line, hline, (mem_trimChars_iff rfl line).mpr ⟨x, left, right, y, hx, hy, hwithin⟩⟩
  · rintro ⟨line, hline, hmem⟩
    obtain ⟨x, left, right, y, hx, hy, hwithin⟩ := (mem_trimChars_iff rfl line).mp hmem
    have hbetween : left ++ right ⊆ line := fun c hc => by
      refine hwithin.subset ?_
      rcases List.mem_append.mp hc with hleft | hright
      · simp [hleft]
      · simp [hright]
    have hfeed : '\n' ∉ left ++ right := fun hmem =>
      lineFeed_not_mem_linesAfter List.not_mem_nil cs line hline (hbetween hmem)
    exact ⟨x, left, right, y, hx, hy, hfeed, (hstands hx hy hfeed).mpr ⟨line, hline, hwithin⟩⟩

/-- A character that is not in front of some others is among these. -/
theorem exists_eq_append_of_not_mem {c : Char} {before others left right : List Char}
    (h : before ++ others = left ++ c :: right) (hc : c ∉ before) :
    ∃ between, left = before ++ between ∧ others = between ++ c :: right := by
  rcases List.append_eq_append_iff.mp h with hsplit | ⟨between, hbefore, hright⟩
  · exact hsplit
  · cases between with
    | nil => exact ⟨[], by simpa using hbefore.symm, hright.symm⟩
    | cons d between =>
      obtain ⟨rfl, -⟩ := List.cons.inj hright
      exact absurd (hbefore ▸ List.mem_append_right _ List.mem_cons_self) hc

/-- The last line of characters that begin with no blank has a character that is not blank, if it
has one together with what goes before them. -/
theorem exists_suffix_of_append {c x : Char} {before cs outer left : List Char}
    (h : before ++ c :: cs = outer ++ x :: left) (hc : isBlank c = false) (hx : isBlank x = false)
    (hfeed : '\n' ∉ left) :
    ∃ first within, isBlank first = false ∧ '\n' ∉ within ∧ first :: within <:+ c :: cs := by
  have hends : x :: left <:+ before ++ c :: cs := h ▸ List.suffix_append ..
  rcases List.suffix_or_suffix_of_suffix hends (List.suffix_append before _) with hline | hcs
  · exact ⟨x, left, hx, hfeed, hline⟩
  · refine ⟨c, cs, hc, fun hmem => hfeed ?_, List.suffix_rfl⟩
    rcases List.suffix_cons_iff.mp hcs with heq | hsuffix
    · obtain ⟨-, rfl⟩ := List.cons.inj heq
      exact hmem
    · exact hsuffix.subset (List.mem_cons_of_mem _ hmem)

/-- Whatever goes before and after some trimmed characters does not bring a carriage return of
theirs within a line, unless it has carriage returns itself. -/
theorem BreaksLine.of_between {before cs after : List Char}
    (h : BreaksLine (before ++ trimChars cs ++ after)) (hbefore : '\r' ∉ before)
    (hafter : '\r' ∉ after) : BreaksLine (trimChars cs) := by
  obtain ⟨x, left, right, y, hx, hy, hfeed, outer, others, hstands⟩ := h
  obtain ⟨hleft, hright⟩ := not_or.mp (mt List.mem_append.mpr hfeed)
  -- The carriage return is one of the trimmed characters, which it divides.
  have hread : before ++ (trimChars cs ++ after) =
      (outer ++ x :: left) ++ '\r' :: (right ++ y :: others) := by
    rw [← List.append_assoc, ← hstands]
    simp
  obtain ⟨start, hstart, hrest⟩ := exists_eq_append_of_not_mem hread hbefore
  have hback : after.reverse ++ (trimChars cs).reverse =
      (others.reverse ++ y :: right.reverse) ++ '\r' :: start.reverse := by
    rw [← List.reverse_append, hrest]
    simp
  obtain ⟨rest, hrest, htrim⟩ :=
    exists_eq_append_of_not_mem hback (mt List.mem_reverse.mp hafter)
  have htrim : trimChars cs = start ++ '\r' :: rest.reverse := by
    rw [← List.reverse_reverse (trimChars cs), htrim]
    simp
  obtain ⟨c, within, others', d, hc, hd, rfl, hrestends⟩ := ends_of_trimChars_eq rfl htrim
  obtain rfl : rest = d :: others'.reverse := by
    rw [← List.reverse_reverse rest, hrestends, List.reverse_concat]
  -- The characters on the two sides of it that are not blank are looked for there.
  obtain ⟨first, between, hfirst, hbetween, before', hbefore'⟩ :=
    exists_suffix_of_append hstart.symm hc hx hleft
  obtain ⟨last, between', hlast, hbetween', after', hafter'⟩ :=
    exists_suffix_of_append hrest.symm hd hy (mt List.mem_reverse.mp hright)
  refine ⟨first, between, between'.reverse, last, hfirst, hlast, ?_, before', after'.reverse, ?_⟩
  · simp [hbetween, hbetween']
  · rw [htrim, ← hbefore', ← hafter']
    simp

instance (cs : List Char) : Decidable (BreaksLine cs) :=
  decidable_of_iff _ (breaksLine_iff cs).symm

end TemplateInspector.Text
