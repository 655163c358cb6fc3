/-!
# Bytes and text

Two readings of bytes as characters. The plain one takes a byte for the character with its number,
so nothing is lost and ASCII stays what it is. The lenient one decodes UTF-8 and puts the
replacement character for every maximal part of a character that is broken off.
-/

namespace TemplateInspector.Text

/-- The characters that bytes number. -/
def ofBytes (bytes : ByteArray) : List Char :=
  bytes.toList.map fun byte => Char.ofNat byte.toNat

/-- The bytes that characters number. -/
def toBytes (cs : List Char) : ByteArray :=
  ⟨(cs.map fun c => c.toNat.toUInt8).toArray⟩

/-- The bytes of the UTF-8 form of a text, each as the character that it numbers. -/
def bytesOf (text : String) : List Char :=
  ofBytes text.toUTF8

/-- Whether a byte continues a character of several bytes. -/
def isContinuation (byte : Nat) : Bool :=
  0x80 ≤ byte && byte < 0xc0

/-- How many bytes follow the first byte of a character, and between which bounds the first of them
lies; none for a byte that starts no character. -/
def tailOf (first : Nat) : Option (Nat × Nat × Nat) :=
  if 0xc2 ≤ first && first ≤ 0xdf then some (1, 0x80, 0xbf)
  else if first = 0xe0 then some (2, 0xa0, 0xbf)
  else if first = 0xed then some (2, 0x80, 0x9f)
  else if 0xe1 ≤ first && first ≤ 0xef then some (2, 0x80, 0xbf)
  else if first = 0xf0 then some (3, 0x90, 0xbf)
  else if 0xf1 ≤ first && first ≤ 0xf3 then some (3, 0x80, 0xbf)
  else if first = 0xf4 then some (3, 0x80, 0x8f)
  else none

/-- The bits that the first byte of a character contributes. -/
def leadBits (first tailLength : Nat) : Nat :=
  first % Nat.pow 2 (6 - tailLength)

/-- Decodes the character that starts with `first`, if it is whole. Yields it and the number of
further bytes that are used up, by a character that is broken off too. -/
def decodeFrom (first : Nat) (rest : List Nat) : Option Char × Nat :=
  if first < 0x80 then (some (Char.ofNat first), 0)
  else match tailOf first with
    | none => (none, 0)
    | some (tailLength, low, high) =>
      match rest with
      | [] => (none, 0)
      | second :: _ =>
        if second < low || high < second then (none, 0)
        else
          let tail := (rest.take tailLength).takeWhile isContinuation
          if tail.length < tailLength then (none, tail.length)
          else
            (some (Char.ofNat (tail.foldl (fun code byte => 64 * code + byte % 64)
              (leadBits first tailLength))), tailLength)

/-- Decodes UTF-8, with the characters `broken` for every maximal part of a character that is broken
off. -/
def decodeWith (broken : List Char) : List Nat → List Char
  | [] => []
  | first :: rest =>
    let decoded := decodeFrom first rest
    decoded.1.elim broken ([·]) ++ decodeWith broken (rest.drop decoded.2)
termination_by bytes => bytes.length
decreasing_by simp only [List.length_drop, List.length_cons]; omega

/-- The replacement character. -/
def replacement : Char := '\uFFFD'

/-- The text of bytes, decoded leniently. -/
def lenient (bytes : ByteArray) : String :=
  String.ofList (decodeWith [replacement] (bytes.toList.map UInt8.toNat))

/-- The text of characters that number bytes, decoded leniently. -/
def shown (cs : List Char) : String :=
  lenient (toBytes cs)

end TemplateInspector.Text
