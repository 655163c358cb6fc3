import Mathlib.Data.List.TakeWhile
import Mathlib.Tactic.SplitIfs
import TemplateInspector.Text.Bytes

/-!
# Decoding the bytes of a text

The lenient decoder undoes the encoding of characters as UTF-8: on the bytes of a text nothing is
broken off, so it yields the characters of the text, whatever it would put for broken parts.
-/

namespace TemplateInspector.Text

/-- A loop over bytes pushes the bytes that are left onto those it has. -/
theorem toList_loop (bytes : ByteArray) (i : Nat) (run : List UInt8) :
    ByteArray.toList.loop bytes i run = run.reverse ++ bytes.data.toList.drop i := by
  fun_induction ByteArray.toList.loop bytes i run with
  | case1 i run h ih =>
    have hi : i < bytes.data.toList.length := h
    have hget : bytes.get! i = bytes.data.toList[i] := getElem!_pos bytes.data i h
    rw [ih, List.drop_eq_getElem_cons hi, hget, List.reverse_cons, List.append_assoc,
      List.singleton_append]
  | case2 i run h =>
    rw [List.drop_eq_nil_of_le (Nat.le_of_not_lt h), List.append_nil]

/-- The bytes of the UTF-8 form of a text are those of its characters. -/
theorem toList_toUTF8 (text : String) :
    text.toUTF8.toList = text.toList.flatMap String.utf8EncodeChar := by
  have hbytes : text.toUTF8 = (text.toList.flatMap String.utf8EncodeChar).toByteArray := by
    rw [String.toUTF8_eq_toByteArray, ← String.ofList_toList (s := text),
      String.toByteArray_ofList, String.toList_ofList, List.utf8Encode]
  rw [hbytes, ByteArray.toList, toList_loop, List.toList_data_toByteArray]
  rfl

/-- The bytes of a character as numbers. -/
theorem map_toNat_utf8EncodeChar (c : Char) :
    (String.utf8EncodeChar c).map UInt8.toNat =
      if c.toNat ≤ 0x7f then [c.toNat]
      else if c.toNat ≤ 0x7ff then [c.toNat / 64 % 32 + 0xc0, c.toNat % 64 + 0x80]
      else if c.toNat ≤ 0xffff then
        [c.toNat / 4096 % 16 + 0xe0, c.toNat / 64 % 64 + 0x80, c.toNat % 64 + 0x80]
      else
        [c.toNat / 262144 % 8 + 0xf0, c.toNat / 4096 % 64 + 0x80, c.toNat / 64 % 64 + 0x80,
          c.toNat % 64 + 0x80] := by
  have hbyte {n : Nat} (h : n < 256) : (UInt8.ofNat n).toNat = n := UInt8.toNat_ofNat_of_lt' h
  have hcode : c.val.toNat = c.toNat := rfl
  simp only [String.utf8EncodeChar, hcode, apply_ite (List.map UInt8.toNat), List.map_cons,
    List.map_nil]
  split_ifs
  · rw [hbyte (by omega)]
  · rw [hbyte (by omega), hbyte (by omega)]
  · rw [hbyte (by omega), hbyte (by omega), hbyte (by omega)]
  · rw [hbyte (by omega), hbyte (by omega), hbyte (by omega), hbyte (by omega)]

/-- A character of several bytes is decoded if its second byte lies in the bounds that the first one
sets, the further ones are as many as they have to be, and their bits make up its number. -/
theorem decodeFrom_whole {c : Char} {first second low high : Nat} {others : List Nat}
    (hfirst : 0x80 ≤ first) (htail : tailOf first = some (others.length + 1, low, high))
    (hlow : low ≤ second) (hhigh : second ≤ high)
    (hothers : ∀ byte ∈ second :: others, isContinuation byte)
    (hcode : (second :: others).foldl (fun code byte => 64 * code + byte % 64)
      (leadBits first (others.length + 1)) = c.toNat) (rest : List Nat) :
    decodeFrom first (second :: others ++ rest) = (some c, others.length + 1) := by
  have hnext : ((second :: others ++ rest).take (others.length + 1)).takeWhile isContinuation =
      second :: others := by
    rw [List.take_left' (by rfl), List.takeWhile_eq_self_iff.mpr hothers]
  have hwithin : (second < low || high < second) = false := by
    simp only [Nat.not_lt.mpr hlow, Nat.not_lt.mpr hhigh, decide_false, Bool.or_self]
  rw [decodeFrom, if_neg (Nat.not_lt.mpr hfirst), htail]
  simp only [List.cons_append] at hnext ⊢
  simp only [hnext, hwithin, hcode, Char.ofNat_toNat, List.length_cons, Nat.lt_irrefl, ite_false,
    Bool.false_eq_true]

/-- A character is decoded from its bytes, and exactly these are used up. -/
theorem decodeFrom_utf8EncodeChar (c : Char) (rest : List Nat) :
    ∃ first tail, (String.utf8EncodeChar c).map UInt8.toNat = first :: tail ∧
      decodeFrom first (tail ++ rest) = (some c, tail.length) := by
  have hvalid : c.toNat < 0xd800 ∨ 0xdfff < c.toNat ∧ c.toNat < 0x110000 := c.valid
  have hcontinues (n : Nat) : isContinuation (n % 64 + 0x80) := by
    simp only [isContinuation, Bool.and_eq_true, decide_eq_true_eq]
    omega
  rw [map_toNat_utf8EncodeChar]
  split_ifs with hone htwo hthree
  · refine ⟨_, _, rfl, ?_⟩
    rw [decodeFrom, if_pos (by omega), Char.ofNat_toNat, List.length_nil]
  · have htail : tailOf (c.toNat / 64 % 32 + 0xc0) = some (1, 0x80, 0xbf) := by
      simp only [tailOf, Bool.and_eq_true, decide_eq_true_eq]
      rw [if_pos (by omega)]
    refine ⟨_, _, rfl, decodeFrom_whole (by omega) htail (by omega) (by omega) ?_ ?_ rest⟩
    · simp [hcontinues]
    · simp only [leadBits, Nat.pow_eq, List.foldl_cons, List.foldl_nil, List.length_nil]
      omega
  · obtain ⟨low, high, htail, hlow, hhigh⟩ : ∃ low high,
        tailOf (c.toNat / 4096 % 16 + 0xe0) = some (2, low, high) ∧
          low ≤ c.toNat / 64 % 64 + 0x80 ∧ c.toNat / 64 % 64 + 0x80 ≤ high := by
      -- The bounds leave out what fits in two bytes, and surrogates.
      simp only [tailOf, Bool.and_eq_true, decide_eq_true_eq]
      rw [if_neg (by omega)]
      split_ifs
      · exact ⟨_, _, rfl, by omega, by omega⟩
      · exact ⟨_, _, rfl, by omega, by omega⟩
      · exact ⟨_, _, rfl, by omega, by omega⟩
      all_goals omega
    refine ⟨_, _, rfl, decodeFrom_whole (by omega) htail hlow hhigh ?_ ?_ rest⟩
    · simp [hcontinues]
    · simp only [leadBits, Nat.pow_eq, List.foldl_cons, List.foldl_nil, List.length_cons,
        List.length_nil]
      omega
  · obtain ⟨low, high, htail, hlow, hhigh⟩ : ∃ low high,
        tailOf (c.toNat / 262144 % 8 + 0xf0) = some (3, low, high) ∧
          low ≤ c.toNat / 4096 % 64 + 0x80 ∧ c.toNat / 4096 % 64 + 0x80 ≤ high := by
      -- The bounds leave out what fits in three bytes, and numbers that are no character.
      simp only [tailOf, Bool.and_eq_true, decide_eq_true_eq]
      rw [if_neg (by omega), if_neg (by omega), if_neg (by omega), if_neg (by omega)]
      split_ifs
      · exact ⟨_, _, rfl, by omega, by omega⟩
      · exact ⟨_, _, rfl, by omega, by omega⟩
      · exact ⟨_, _, rfl, by omega, by omega⟩
      all_goals omega
    refine ⟨_, _, rfl, decodeFrom_whole (by omega) htail hlow hhigh ?_ ?_ rest⟩
    · simp [hcontinues]
    · simp only [leadBits, Nat.pow_eq, List.foldl_cons, List.foldl_nil, List.length_cons,
        List.length_nil]
      omega

/-- On the bytes of characters nothing is broken off. -/
theorem decodeWith_flatMap_utf8EncodeChar (broken cs : List Char) :
    decodeWith broken ((cs.flatMap String.utf8EncodeChar).map UInt8.toNat) = cs := by
  induction cs with
  | nil => rw [List.flatMap_nil, List.map_nil, decodeWith]
  | cons c cs ih =>
    obtain ⟨first, tail, hbytes, hdecoded⟩ :=
      decodeFrom_utf8EncodeChar c ((cs.flatMap String.utf8EncodeChar).map UInt8.toNat)
    rw [List.flatMap_cons, List.map_append, hbytes, List.cons_append, decodeWith]
    simp only [hdecoded, Option.elim_some, List.drop_left, ih, List.singleton_append]

/-- The bytes of a text are decoded to its characters. -/
theorem decodeWith_toUTF8 (broken : List Char) (text : String) :
    decodeWith broken (text.toUTF8.toList.map UInt8.toNat) = text.toList := by
  rw [toList_toUTF8, decodeWith_flatMap_utf8EncodeChar]

end TemplateInspector.Text
