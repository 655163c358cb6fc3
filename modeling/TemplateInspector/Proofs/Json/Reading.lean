import Mathlib.Data.List.Basic
import Mathlib.Data.List.TakeWhile
import Mathlib.Tactic.SplitIfs
import TemplateInspector.Json.Reader
import TemplateInspector.Json.Writer
import TemplateInspector.Proofs.Text.Bytes

/-!
# Reading JSON that was written

The reader gives back every value whose numbers are integers from the text that the writer makes of
it, whatever the strings are, and uses up exactly this text. The proof is by induction on the value;
what follows the text of a value must not go on with a number, which nothing does that the writer
puts there.
-/

namespace TemplateInspector

namespace Json

/-! ## Strings -/

/-- What a unit of a string stands for when it is one character. -/
inductive TextUnit.StandsFor : TextUnit → Char → Prop
  /-- A character stands for itself. -/
  | char (c : Char) : StandsFor (.char c) c
  /-- A code that is no surrogate stands for its character. -/
  | unit {c : Char} (h : c.toNat < 0xd800) : StandsFor (.unit c.toNat) c

/-- A unit that stands for a character is joined as this character. -/
theorem TextUnit.StandsFor.joinUnits_cons {u : TextUnit} {c : Char} (h : u.StandsFor c)
    (rest : List TextUnit) : joinUnits (u :: rest) = (joinUnits rest).map (c :: ·) := by
  cases h with
  | char => rw [joinUnits]
  | unit hcode =>
    cases rest <;> simp [joinUnits, hcode]

/-- Hexadecimal digits are read back. -/
theorem hexDigit?_hexDigit : ∀ n < 16, hexDigit? (hexDigit n) = some n := by
  decide

/-- A control character is read back from the code that is written for it. -/
theorem hexCode?_hexDigit {n : Nat} (h : n < 0x20) :
    hexCode? '0' '0' (hexDigit (n / 16)) (hexDigit (n % 16)) = some n := by
  have hzero : hexDigit? '0' = some 0 := by decide
  simp only [hexCode?, hzero, hexDigit?_hexDigit (n / 16) (by omega),
    hexDigit?_hexDigit (n % 16) (Nat.mod_lt _ (by omega)), Option.bind_eq_bind, Option.bind_some]
  rw [Option.pure_def, Option.some.injEq]
  omega

/-- A character is written as a pair with a backslash, as a code, or as itself. -/
theorem writeChar_cases (c : Char) :
    (∃ e, e ≠ 'u' ∧ shortEscape? e = some c ∧ writeChar c = ['\\', e]) ∨
      c.toNat < 0x20 ∧
        writeChar c = ['\\', 'u', '0', '0', hexDigit (c.toNat / 16), hexDigit (c.toNat % 16)] ∨
      c ≠ '"' ∧ c ≠ '\\' ∧ ¬ c.toNat < 0x20 ∧ writeChar c = [c] := by
  by_cases hshort : c ∈ ['"', '\\', '\x08', '\x0c', '\n', '\r', '\t']
  · left
    simp only [List.mem_cons, List.not_mem_nil, or_false] at hshort
    rcases hshort with rfl | rfl | rfl | rfl | rfl | rfl | rfl
    · exact ⟨'"', by decide, rfl, rfl⟩
    · exact ⟨'\\', by decide, rfl, rfl⟩
    · exact ⟨'b', by decide, rfl, rfl⟩
    · exact ⟨'f', by decide, rfl, rfl⟩
    · exact ⟨'n', by decide, rfl, rfl⟩
    · exact ⟨'r', by decide, rfl, rfl⟩
    · exact ⟨'t', by decide, rfl, rfl⟩
  · right
    simp only [List.mem_cons, List.not_mem_nil, or_false, not_or] at hshort
    have hwritten : writeChar c = if c.toNat < 0x20 then
        ['\\', 'u', '0', '0', hexDigit (c.toNat / 16), hexDigit (c.toNat % 16)] else [c] := by
      simp only [writeChar, hshort, ite_false]
    by_cases hcontrol : c.toNat < 0x20
    · exact .inl ⟨hcontrol, hwritten.trans (if_pos hcontrol)⟩
    · exact .inr ⟨hshort.1, hshort.2.1, hcontrol, hwritten.trans (if_neg hcontrol)⟩

/-- The written form of a character is read as one unit that stands for it. -/
theorem exists_readUnits_writeChar (c : Char) : ∃ u : TextUnit, u.StandsFor c ∧
    ∀ run rest, readUnits run (writeChar c ++ rest) = readUnits (u :: run) rest := by
  rcases writeChar_cases c with ⟨e, hcode, hshort, hwritten⟩ | ⟨hcontrol, hwritten⟩ |
    ⟨hquote, hslash, hcontrol, hwritten⟩
  · refine ⟨_, .char c, fun run rest => ?_⟩
    rw [hwritten]
    simp [readUnits, hcode, hshort]
  · refine ⟨_, .unit (c := c) (by omega), fun run rest => ?_⟩
    rw [hwritten]
    simp [readUnits, hexCode?_hexDigit hcontrol]
  · refine ⟨_, .char c, fun run rest => ?_⟩
    rw [hwritten, List.singleton_append, readUnits.eq_def]
    simp only [hquote, hslash, hcontrol, ite_false]

/-- A string ends at a quote. -/
theorem readUnits_quote (run : List TextUnit) (rest : List Char) :
    readUnits run ('"' :: rest) = some (run.reverse, rest) := by
  rw [readUnits.eq_def]
  rfl

/-- The written form of characters is read as units that are joined to these characters. -/
theorem exists_readUnits_flatMap (cs : List Char) : ∃ units, joinUnits units = some cs ∧
    ∀ run rest, readUnits run (cs.flatMap writeChar ++ '"' :: rest) =
      some (run.reverse ++ units, rest) := by
  induction cs with
  | nil =>
    refine ⟨[], rfl, fun run rest => ?_⟩
    rw [List.flatMap_nil, List.nil_append, readUnits_quote, List.append_nil]
  | cons c cs ih =>
    obtain ⟨u, hstands, hread⟩ := exists_readUnits_writeChar c
    obtain ⟨units, hjoined, hothers⟩ := ih
    refine ⟨u :: units, by rw [hstands.joinUnits_cons, hjoined]; rfl, fun run rest => ?_⟩
    rw [List.flatMap_cons, List.append_assoc, hread, hothers, List.reverse_cons, List.append_assoc,
      List.singleton_append]

/-- A string is read back from behind its opening quote, with or without a text. -/
theorem exists_readString_writeText (text : Option String) : ∃ written,
    writeText text = '"' :: written ∧ ∀ rest, readString (written ++ rest) = some (text, rest) := by
  cases text with
  | none =>
    have hcode : hexCode? 'd' '8' '0' '0' = some 0xd800 := by decide
    have hjoined : joinUnits [.unit 0xd800] = none := rfl
    refine ⟨['\\', 'u', 'd', '8', '0', '0', '"'], rfl, fun rest => ?_⟩
    simp [readString, readUnits, hcode, readUnits_quote, hjoined]
  | some text =>
    obtain ⟨units, hjoined, hread⟩ := exists_readUnits_flatMap text.toList
    refine ⟨text.toList.flatMap writeChar ++ ['"'], rfl, fun rest => ?_⟩
    rw [readString, List.append_assoc, List.singleton_append, hread]
    simp [hjoined]

/-! ## Numbers -/

/-- What does not go on with a number that ends before it. -/
def EndsNumber (rest : List Char) : Prop :=
  ∀ c ∈ rest.head?, ¬ c.isDigit ∧ c ≠ '.' ∧ c ≠ 'e' ∧ c ≠ 'E'

/-- The digits of a number write it. -/
theorem digitsValue_writeNat (n : Nat) : digitsValue (writeNat n) = n :=
  Nat.ofDigitChars_eq_foldl.symm.trans Nat.ofDigitChars_ten_toDigits

/-- A number is written in digits. -/
theorem isDigit_of_mem_writeNat {n : Nat} {c : Char} (h : c ∈ writeNat n) : c.isDigit :=
  Nat.isDigit_of_mem_toDigits (by omega) (by omega) h

/-- Only zero is written with a leading zero. -/
theorem eq_zero_of_head?_writeNat {n : Nat} (h : (writeNat n).head? = some '0') : n = 0 := by
  induction n using Nat.strongRecOn with
  | _ n ih =>
    rw [writeNat, Nat.toDigits_eq_if (by omega)] at h
    split_ifs at h with hlt
    · exact Nat.digitChar_eq_zero.mp (Option.some.inj h)
    · rw [List.head?_append_of_ne_nil _ Nat.toDigits_ne_nil] at h
      have := ih (n / 10) (by omega) h
      omega

/-- The digits of a number are divided from what ends it. -/
theorem spanDigits_writeNat (n : Nat) {rest : List Char} (h : EndsNumber rest) :
    spanDigits (writeNat n ++ rest) = (writeNat n, rest) := by
  have hdigits : ∀ c ∈ writeNat n, c.isDigit := fun c => isDigit_of_mem_writeNat
  have hrest : rest.takeWhile Char.isDigit = [] ∧ rest.dropWhile Char.isDigit = rest := by
    cases rest with
    | nil => exact ⟨rfl, rfl⟩
    | cons c rest =>
      obtain ⟨hc, -⟩ := h c rfl
      exact ⟨List.takeWhile_cons_of_neg hc, List.dropWhile_cons_of_neg hc⟩
  rw [spanDigits, List.takeWhile_append_of_pos hdigits, List.dropWhile_append_of_pos hdigits,
    hrest.1, hrest.2, List.append_nil]

/-- A natural number is read back up to what ends it. -/
theorem readMagnitude_writeNat (negative : Bool) (n : Nat) {rest : List Char}
    (h : EndsNumber rest) :
    readMagnitude negative (writeNat n ++ rest) = some (.integer negative n, rest) := by
  have hwhole : ¬ ((writeNat n).isEmpty ∨
      (writeNat n).head? = some '0' ∧ (writeNat n).length ≠ 1) := by
    rintro (hempty | ⟨hzero, hlength⟩)
    · exact Nat.toDigits_ne_nil (List.isEmpty_iff.mp hempty)
    · rw [eq_zero_of_head?_writeNat hzero] at hlength
      exact hlength rfl
  have hfraction : readFraction rest = some (none, rest) := by
    unfold readFraction
    split
    case h_1 rest => exact absurd rfl (h '.' rfl).2.1
    case h_2 => rfl
  have hexponent : readExponent rest = some (none, rest) := by
    unfold readExponent
    split
    case h_1 => rfl
    case h_2 c rest =>
      obtain ⟨-, -, he, hE⟩ := h c rfl
      simp only [he, hE, or_self, ite_false]
  rw [readMagnitude, spanDigits_writeNat n h]
  simp only [hwhole, hfraction, hexponent, digitsValue_writeNat, ite_false, Option.bind_eq_bind,
    Option.bind_some]

/-- A number begins with a minus sign or a digit and is read back up to what ends it. -/
theorem exists_readNumber_writeNumber (negative : Bool) (n : Nat) : ∃ c cs,
    writeNumber (.integer negative n) = c :: cs ∧ (c = '-' ∨ c.isDigit) ∧
      ∀ rest, EndsNumber rest →
        readNumber (c :: cs ++ rest) = some (.integer negative n, rest) := by
  cases negative with
  | true =>
    refine ⟨'-', writeNat n, rfl, .inl rfl, fun rest h => ?_⟩
    rw [List.cons_append, readNumber, readMagnitude_writeNat true n h]
  | false =>
    obtain ⟨c, cs, hwritten⟩ := List.exists_cons_of_ne_nil (Nat.toDigits_ne_nil (b := 10) (n := n))
    have hdigit : c.isDigit := isDigit_of_mem_writeNat (n := n) (by simp [writeNat, hwritten])
    refine ⟨c, cs, hwritten, .inr hdigit, fun rest h => ?_⟩
    have hminus : c ≠ '-' := by
      rintro rfl
      exact absurd hdigit (by decide)
    rw [← hwritten, ← writeNat, ← readMagnitude_writeNat false n h, writeNat, hwritten,
      List.cons_append, readNumber.eq_def]
    split
    case h_1 hhead => exact absurd (List.cons.inj hhead).1 hminus
    case h_2 => rfl

/-! ## Values -/

/-- A value all of whose numbers are integers. -/
inductive IsIntegral : Json → Prop
  | null : IsIntegral .null
  | bool (value : Bool) : IsIntegral (.bool value)
  | number (negative : Bool) (magnitude : Nat) :
    IsIntegral (.number (.integer negative magnitude))
  | string (text : Option String) : IsIntegral (.string text)
  | array {items : List Json} (h : ∀ item ∈ items, IsIntegral item) : IsIntegral (.array items)
  | object {fields : List (Option String × Json)} (h : ∀ field ∈ fields, IsIntegral field.2) :
    IsIntegral (.object fields)

/-- A character that begins a value: no blank, and not the end of an array. -/
def IsStart (c : Char) : Prop :=
  c ∉ [' ', '\t', '\n', '\r', ']']

instance (c : Char) : Decidable (IsStart c) :=
  inferInstanceAs (Decidable (c ∉ _))

/-- A value whose text begins as values do, and is read back up to anything that ends a number. -/
structure ReadsBack (value : Json) : Prop where
  /-- The text begins as values do. -/
  start : ∃ c cs, write value = c :: cs ∧ IsStart c
  /-- The text is read back. Its length is fuel enough. -/
  read : ∀ fuel rest, (write value).length ≤ fuel → EndsNumber rest →
    readValue fuel (write value ++ rest) = some (value, rest)

/-- No blanks are passed over before a value. -/
theorem skipBlanks_cons {c : Char} (h : IsStart c) (rest : List Char) :
    skipBlanks (c :: rest) = c :: rest := by
  simp only [IsStart, List.mem_cons, List.not_mem_nil, or_false, not_or] at h
  obtain ⟨hspace, htab, hline, hreturn, -⟩ := h
  exact List.dropWhile_cons_of_neg (by simp [hspace, htab, hline, hreturn])

/-- A word is read back. -/
theorem readWord_append (word : String) (value : Json) (rest : List Char) :
    readWord word value (word.toList ++ rest) = some (value, rest) := by
  rw [readWord, if_pos (List.isPrefixOf_iff_prefix.mpr (List.prefix_append _ _)), List.drop_left]

/-- A value is read back if its text begins as values do and one step reads it. -/
theorem readsBack_of_step {value : Json} {c : Char} {cs : List Char}
    (hwritten : write value = c :: cs) (hstart : IsStart c)
    (hread : ∀ fuel rest, cs.length ≤ fuel → EndsNumber rest →
      readValue (fuel + 1) (c :: cs ++ rest) = some (value, rest)) : ReadsBack value := by
  refine ⟨⟨c, cs, hwritten, hstart⟩, fun fuel rest hfuel hrest => ?_⟩
  rw [hwritten] at hfuel ⊢
  obtain ⟨fuel, rfl⟩ := Nat.exists_eq_succ_of_ne_zero (n := fuel) (by simp at hfuel; omega)
  exact hread fuel rest (by simpa using hfuel) hrest

/-- `null` is read back. -/
theorem readsBack_null : ReadsBack .null := by
  have hwritten : write .null = 'n' :: ['u', 'l', 'l'] := rfl
  refine readsBack_of_step hwritten (by decide) fun fuel rest _ _ => ?_
  rw [List.cons_append, readValue, skipBlanks_cons (by decide)]
  exact readWord_append "null" .null rest

/-- A Boolean is read back. -/
theorem readsBack_bool (value : Bool) : ReadsBack (.bool value) := by
  cases value with
  | true =>
    have hwritten : write (.bool true) = 't' :: ['r', 'u', 'e'] := rfl
    refine readsBack_of_step hwritten (by decide) fun fuel rest _ _ => ?_
    rw [List.cons_append, readValue, skipBlanks_cons (by decide)]
    exact readWord_append "true" (.bool true) rest
  | false =>
    have hwritten : write (.bool false) = 'f' :: ['a', 'l', 's', 'e'] := rfl
    refine readsBack_of_step hwritten (by decide) fun fuel rest _ _ => ?_
    rw [List.cons_append, readValue, skipBlanks_cons (by decide)]
    exact readWord_append "false" (.bool false) rest

/-- A number is read back. -/
theorem readsBack_integer (negative : Bool) (n : Nat) :
    ReadsBack (.number (.integer negative n)) := by
  obtain ⟨c, cs, hwritten, hc, hread⟩ := exists_readNumber_writeNumber negative n
  have hother (d : Char) (hd : d ≠ '-' ∧ d.isDigit = false) : c ≠ d := by
    rintro rfl
    rcases hc with hminus | hdigit
    · exact hd.1 hminus
    · exact absurd hdigit (by simp [hd.2])
  have hstart : IsStart c := by
    simp only [IsStart, List.mem_cons, List.not_mem_nil, or_false, not_or]
    exact ⟨hother _ (by decide), hother _ (by decide), hother _ (by decide), hother _ (by decide),
      hother _ (by decide)⟩
  refine readsBack_of_step hwritten hstart fun fuel rest _ hrest => ?_
  rw [List.cons_append, readValue, skipBlanks_cons hstart]
  simp only [hother '"' (by decide), hother '[' (by decide), hother '\x7b' (by decide),
    hother 'n' (by decide), hother 't' (by decide), hother 'f' (by decide), ite_false]
  rw [← List.cons_append, hread rest hrest]
  rfl

/-- A string is read back. -/
theorem readsBack_string (text : Option String) : ReadsBack (.string text) := by
  obtain ⟨written, hwritten, hread⟩ := exists_readString_writeText text
  refine readsBack_of_step hwritten (by decide) fun fuel rest _ _ => ?_
  rw [List.cons_append, readValue, skipBlanks_cons (by decide)]
  simp only [hread, ite_true, Option.map_some]

/-- A number ends before a character that is no part of it. -/
theorem endsNumber_cons {c : Char} (h : ¬ c.isDigit ∧ c ≠ '.' ∧ c ≠ 'e' ∧ c ≠ 'E')
    (rest : List Char) : EndsNumber (c :: rest) := by
  intro d hd
  rwa [← Option.some.inj hd]

/-- A number ends before the further items of an array. -/
theorem endsNumber_writeItems (items : List Json) (rest : List Char) :
    EndsNumber (writeItems items ++ rest) := by
  cases items with
  | nil => exact endsNumber_cons (by decide) _
  | cons => exact endsNumber_cons (by decide) _

/-- A number ends before the further fields of an object. -/
theorem endsNumber_writeFields (fields : List (Option String × Json)) (rest : List Char) :
    EndsNumber (writeFields fields ++ rest) := by
  cases fields with
  | nil => exact endsNumber_cons (by decide) _
  | cons => exact endsNumber_cons (by decide) _

/-- The items of an array are read back if each of them is. -/
theorem readItems_writeItems {items : List Json} (hitems : ∀ item ∈ items, ReadsBack item)
    {item : Json} (hitem : ReadsBack item) (fuel : Nat) (run : List Json) (rest : List Char)
    (hfuel : (write item ++ writeItems items).length ≤ fuel) :
    readItems fuel run (write item ++ (writeItems items ++ rest)) =
      some (run.reverse ++ item :: items, rest) := by
  -- Every step on fuel is paid for by a character: a bracket, or the comma before a next item.
  induction items generalizing item fuel run with
  | nil =>
    rw [List.length_append, writeItems] at hfuel
    obtain ⟨fuel, rfl⟩ := Nat.exists_eq_succ_of_ne_zero (n := fuel) (by simp at hfuel; omega)
    rw [readItems, hitem.read fuel _ (by simpa using hfuel) (endsNumber_writeItems [] rest)]
    simp [writeItems, skipBlanks]
  | cons next items ih =>
    obtain ⟨hnext, hothers⟩ := List.forall_mem_cons.mp hitems
    simp only [List.length_append, writeItems, List.length_cons] at hfuel
    obtain ⟨fuel, rfl⟩ := Nat.exists_eq_succ_of_ne_zero (n := fuel) (by omega)
    rw [readItems, hitem.read fuel _ (by omega) (endsNumber_writeItems _ rest)]
    have hrest := ih hothers hnext fuel (item :: run) (by simp only [List.length_append]; omega)
    have hcomma (rest : List Char) : skipBlanks (',' :: rest) = ',' :: rest :=
      skipBlanks_cons (by decide) rest
    simp only [writeItems, List.append_assoc, List.cons_append, hcomma, hrest, List.reverse_cons,
      List.nil_append]

/-- An array is read back if its items are. -/
theorem readsBack_array {items : List Json} (h : ∀ item ∈ items, ReadsBack item) :
    ReadsBack (.array items) := by
  cases items with
  | nil =>
    have hwritten : write (.array []) = '[' :: [']'] := rfl
    refine readsBack_of_step hwritten (by decide) fun fuel rest _ _ => ?_
    rw [List.cons_append, readValue, skipBlanks_cons (by decide)]
    simp [skipBlanks]
  | cons item items =>
    obtain ⟨hitem, hitems⟩ := List.forall_mem_cons.mp h
    have hwritten : write (.array (item :: items)) = '[' :: (write item ++ writeItems items) := rfl
    refine readsBack_of_step hwritten (by decide) fun fuel rest hfuel _ => ?_
    have hread := readItems_writeItems hitems hitem fuel [] rest hfuel
    obtain ⟨c, cs, hitemWritten, hstart⟩ := hitem.start
    rw [List.cons_append, readValue, skipBlanks_cons (by decide), List.append_assoc]
    simp only [Char.reduceEq, ite_false, ite_true]
    rw [hitemWritten, List.cons_append] at hread ⊢
    rw [skipBlanks_cons hstart]
    split
    case h_1 hbracket =>
      rw [(List.cons.inj hbracket).1] at hstart
      exact absurd hstart (by decide)
    case h_2 =>
      rw [hread]
      rfl

/-- The fields of an object are read back if the value of each of them is. -/
theorem readFields_writeFields {fields : List (Option String × Json)}
    (hfields : ∀ field ∈ fields, ReadsBack field.2) (name : Option String) {value : Json}
    (hvalue : ReadsBack value) (fuel : Nat) (run : List (Option String × Json)) (rest : List Char)
    (hfuel : (writeText name ++ ':' :: write value ++ writeFields fields).length ≤ fuel) :
    readFields fuel run (writeText name ++ ':' :: (write value ++ (writeFields fields ++ rest))) =
      some (run.reverse ++ (name, value) :: fields, rest) := by
  have hquote (rest : List Char) : skipBlanks ('"' :: rest) = '"' :: rest :=
    skipBlanks_cons (by decide) rest
  have hcolon (rest : List Char) : skipBlanks (':' :: rest) = ':' :: rest :=
    skipBlanks_cons (by decide) rest
  induction fields generalizing name value fuel run with
  | nil =>
    obtain ⟨written, hwritten, hread⟩ := exists_readString_writeText name
    simp only [List.length_append, List.length_cons] at hfuel
    obtain ⟨fuel, rfl⟩ := Nat.exists_eq_succ_of_ne_zero (n := fuel) (by omega)
    have hbrace (rest : List Char) : skipBlanks ('\x7d' :: rest) = '\x7d' :: rest :=
      skipBlanks_cons (by decide) rest
    rw [readFields, hwritten, List.cons_append, hquote]
    simp only [hread, hcolon]
    rw [hvalue.read fuel _ (by omega) (endsNumber_writeFields [] rest)]
    simp only [writeFields, List.cons_append, List.nil_append, hbrace, List.reverse_cons]
  | cons field fields ih =>
    obtain ⟨hnext, hothers⟩ := List.forall_mem_cons.mp hfields
    obtain ⟨written, hwritten, hread⟩ := exists_readString_writeText name
    simp only [List.length_append, List.length_cons, writeFields] at hfuel
    obtain ⟨fuel, rfl⟩ := Nat.exists_eq_succ_of_ne_zero (n := fuel) (by omega)
    have hrest := ih hothers field.1 hnext fuel ((name, value) :: run)
      (by simp only [List.length_append, List.length_cons]; omega)
    have hcomma (rest : List Char) : skipBlanks (',' :: rest) = ',' :: rest :=
      skipBlanks_cons (by decide) rest
    rw [readFields, hwritten, List.cons_append, hquote]
    simp only [hread, hcolon]
    rw [hvalue.read fuel _ (by omega) (endsNumber_writeFields _ rest)]
    simp only [writeFields, List.append_assoc, List.cons_append, hcomma, hrest, List.reverse_cons,
      List.nil_append]

/-- An object is read back if the values of its fields are. -/
theorem readsBack_object {fields : List (Option String × Json)}
    (h : ∀ field ∈ fields, ReadsBack field.2) : ReadsBack (.object fields) := by
  cases fields with
  | nil =>
    have hwritten : write (.object []) = '\x7b' :: ['\x7d'] := rfl
    refine readsBack_of_step hwritten (by decide) fun fuel rest _ _ => ?_
    rw [List.cons_append, readValue, skipBlanks_cons (by decide)]
    simp [skipBlanks]
  | cons field fields =>
    obtain ⟨name, value⟩ := field
    obtain ⟨hvalue, hfields⟩ := List.forall_mem_cons.mp h
    have hobject : write (.object ((name, value) :: fields)) =
        '\x7b' :: (writeText name ++ ':' :: write value ++ writeFields fields) := rfl
    refine readsBack_of_step hobject (by decide) fun fuel rest hfuel _ => ?_
    have hread := readFields_writeFields hfields name hvalue fuel [] rest hfuel
    obtain ⟨written, hwritten, -⟩ := exists_readString_writeText name
    rw [List.cons_append, readValue, skipBlanks_cons (by decide)]
    simp only [Char.reduceEq, ite_false, ite_true, List.append_assoc, List.cons_append]
    rw [hwritten, List.cons_append] at hread ⊢
    rw [skipBlanks_cons (by decide)]
    split
    case h_1 hbrace => exact absurd (List.cons.inj hbrace).1 (by decide)
    case h_2 =>
      rw [hread]
      rfl

/-- A value all of whose numbers are integers is read back from its text. -/
theorem IsIntegral.readsBack {value : Json} (h : IsIntegral value) : ReadsBack value := by
  induction h with
  | null => exact readsBack_null
  | bool value => exact readsBack_bool value
  | number negative magnitude => exact readsBack_integer negative magnitude
  | string text => exact readsBack_string text
  | array _ ih => exact readsBack_array ih
  | object _ ih => exact readsBack_object ih

/-- A value all of whose numbers are integers is what its text is read as. -/
theorem read_write {value : Json} (h : IsIntegral value) : read (write value) = some value := by
  have hread := h.readsBack.read (2 * (write value).length + 2) [] (by omega) (by simp [EndsNumber])
  rw [List.append_nil] at hread
  rw [read, hread]
  rfl

/-- A value all of whose numbers are integers is what its text is parsed as. -/
theorem parse_compact {value : Json} (h : IsIntegral value) :
    parse (compact value) = some value := by
  rw [parse, compact, String.toList_ofList, read_write h]

/-- A value all of whose numbers are integers is what the bytes of its text are parsed as. -/
theorem parseBytes_compact {value : Json} (h : IsIntegral value) :
    parseBytes (compact value).toUTF8 = some value := by
  rw [parseBytes, Text.decodeWith_toUTF8, compact, String.toList_ofList, read_write h]

end Json

end TemplateInspector
