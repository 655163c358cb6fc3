import TemplateInspector.Utility.Options

/-!
# Programs that digest texts

A text of any length becomes a number of fixed length. The text is filled up to whole blocks, and
the state of the digest is stirred with each of them.
-/

namespace TemplateInspector.Utility

/-! ## Blocks -/

/-- A text filled up to blocks of 64 bytes: a bit, zeros, and the number of bits in eight bytes. -/
def paddedText (isLittleEndian : Bool) (text : List Char) : List Nat :=
  let size := text.length
  let zeros := (119 - size % 64) % 64
  let bits := 8 * size
  let tail := (List.range 8).map fun i => bits / Nat.pow 256 i % 256
  text.map Char.toNat ++ 0x80 :: List.replicate zeros 0 ++
    (if isLittleEndian then tail else tail.reverse)

/-- The words of four bytes. -/
def wordsOfBytes (isLittleEndian : Bool) : List Nat → List UInt32
  | a :: b :: c :: d :: rest =>
    let n := if isLittleEndian then a + 256 * b + 65536 * c + 16777216 * d
      else 16777216 * a + 65536 * b + 256 * c + d
    n.toUInt32 :: wordsOfBytes isLittleEndian rest
  | _ => []

/-- The blocks of sixteen words. `fuel` bounds their number. -/
def blocksOf : Nat → List UInt32 → List (Array UInt32)
  | 0, _ | _, [] => []
  | fuel + 1, words => (words.take 16).toArray :: blocksOf fuel (words.drop 16)

/-- The blocks of a text. -/
def digestBlocks (isLittleEndian : Bool) (text : List Char) : List (Array UInt32) :=
  let words := wordsOfBytes isLittleEndian (paddedText isLittleEndian text)
  blocksOf (words.length + 1) words

/-- A word turned to the left. -/
def turnLeft (x : UInt32) (count : UInt32) : UInt32 :=
  (x <<< count) ||| (x >>> (32 - count))

/-- The hexadecimal digits of the bytes of words. -/
def wordDigits (isLittleEndian : Bool) (words : List UInt32) : List Char :=
  words.flatMap fun word =>
    let bytes := (List.range 4).map fun i => word.toNat / Nat.pow 256 i % 256
    (if isLittleEndian then bytes else bytes.reverse).flatMap fun byte =>
      let digits := Nat.toDigits 16 byte
      List.replicate (2 - digits.length) '0' ++ digits

/-! ## Digests of 128 bits -/

/-- The whole part of a sine, as the digest of 128 bits uses them. -/
def sineTable : Array UInt32 :=
  ((List.range 64).map fun i =>
    ((Float.abs (Float.sin (i + 1).toFloat)) * 4294967296.0).toUInt64.toUInt32).toArray

/-- The numbers of bits by which words are turned. -/
def turnTable : Array UInt32 :=
  #[7, 12, 17, 22, 5, 9, 14, 20, 4, 11, 16, 23, 6, 10, 15, 21]

/-- Stirs a block into the state of the digest of 128 bits. -/
def stir128 (state : UInt32 × UInt32 × UInt32 × UInt32) (block : Array UInt32) :
    UInt32 × UInt32 × UInt32 × UInt32 :=
  let step (s : UInt32 × UInt32 × UInt32 × UInt32) (i : Nat) : UInt32 × UInt32 × UInt32 × UInt32 :=
    let (a, b, c, d) := s
    let (f, g) : UInt32 × Nat :=
      if i < 16 then ((b &&& c) ||| (~~~b &&& d), i)
      else if i < 32 then ((d &&& b) ||| (~~~d &&& c), (5 * i + 1) % 16)
      else if i < 48 then (b ^^^ c ^^^ d, (3 * i + 5) % 16)
      else (c ^^^ (b ||| ~~~d), 7 * i % 16)
    let sum := f + a + sineTable.getD i 0 + block.getD g 0
    (d, b + turnLeft sum (turnTable.getD (4 * (i / 16) + i % 4) 0), b, c)
  let (a, b, c, d) := (List.range 64).foldl step state
  (state.1 + a, state.2.1 + b, state.2.2.1 + c, state.2.2.2 + d)

/-- The digest of 128 bits. -/
def digest128 (text : List Char) : List Char :=
  let (a, b, c, d) := (digestBlocks true text).foldl stir128
    (0x67452301, 0xefcdab89, 0x98badcfe, 0x10325476)
  wordDigits true [a, b, c, d]

/-! ## Digests of 160 bits -/

/-- The words of a block with those that follow from them. -/
def extended160 (block : Array UInt32) : Array UInt32 :=
  (List.range 64).foldl (fun words i =>
    let word (back : Nat) : UInt32 := words.getD (16 + i - back) 0
    words.push (turnLeft (word 3 ^^^ word 8 ^^^ word 14 ^^^ word 16) 1)) block

/-- Stirs a block into the state of the digest of 160 bits. -/
def stir160 (state : UInt32 × UInt32 × UInt32 × UInt32 × UInt32) (block : Array UInt32) :
    UInt32 × UInt32 × UInt32 × UInt32 × UInt32 :=
  let words := extended160 block
  let step (s : UInt32 × UInt32 × UInt32 × UInt32 × UInt32) (i : Nat) :
      UInt32 × UInt32 × UInt32 × UInt32 × UInt32 :=
    let (a, b, c, d, e) := s
    let (f, k) : UInt32 × UInt32 :=
      if i < 20 then ((b &&& c) ||| (~~~b &&& d), 0x5a827999)
      else if i < 40 then (b ^^^ c ^^^ d, 0x6ed9eba1)
      else if i < 60 then ((b &&& c) ||| (b &&& d) ||| (c &&& d), 0x8f1bbcdc)
      else (b ^^^ c ^^^ d, 0xca62c1d6)
    (turnLeft a 5 + f + e + k + words.getD i 0, a, turnLeft b 30, c, d)
  let (a, b, c, d, e) := (List.range 80).foldl step state
  (state.1 + a, state.2.1 + b, state.2.2.1 + c, state.2.2.2.1 + d, state.2.2.2.2 + e)

/-- The digest of 160 bits. -/
def digest160 (text : List Char) : List Char :=
  let (a, b, c, d, e) := (digestBlocks false text).foldl stir160
    (0x67452301, 0xefcdab89, 0x98badcfe, 0x10325476, 0xc3d2e1f0)
  wordDigits false [a, b, c, d, e]

/-! ## Digests of 256 bits -/

/-- The first bits of the cube roots of the first primes. -/
def rootTable : Array UInt32 :=
  #[0x428a2f98, 0x71374491, 0xb5c0fbcf, 0xe9b5dba5, 0x3956c25b, 0x59f111f1, 0x923f82a4, 0xab1c5ed5,
    0xd807aa98, 0x12835b01, 0x243185be, 0x550c7dc3, 0x72be5d74, 0x80deb1fe, 0x9bdc06a7, 0xc19bf174,
    0xe49b69c1, 0xefbe4786, 0x0fc19dc6, 0x240ca1cc, 0x2de92c6f, 0x4a7484aa, 0x5cb0a9dc, 0x76f988da,
    0x983e5152, 0xa831c66d, 0xb00327c8, 0xbf597fc7, 0xc6e00bf3, 0xd5a79147, 0x06ca6351, 0x14292967,
    0x27b70a85, 0x2e1b2138, 0x4d2c6dfc, 0x53380d13, 0x650a7354, 0x766a0abb, 0x81c2c92e, 0x92722c85,
    0xa2bfe8a1, 0xa81a664b, 0xc24b8b70, 0xc76c51a3, 0xd192e819, 0xd6990624, 0xf40e3585, 0x106aa070,
    0x19a4c116, 0x1e376c08, 0x2748774c, 0x34b0bcb5, 0x391c0cb3, 0x4ed8aa4a, 0x5b9cca4f, 0x682e6ff3,
    0x748f82ee, 0x78a5636f, 0x84c87814, 0x8cc70208, 0x90befffa, 0xa4506ceb, 0xbef9a3f7, 0xc67178f2]

/-- A word turned to the right. -/
def turnRight (x : UInt32) (count : UInt32) : UInt32 :=
  (x >>> count) ||| (x <<< (32 - count))

/-- The words of a block with those that follow from them. -/
def extended256 (block : Array UInt32) : Array UInt32 :=
  (List.range 48).foldl (fun words i =>
    let word (back : Nat) : UInt32 := words.getD (16 + i - back) 0
    let small := turnRight (word 15) 7 ^^^ turnRight (word 15) 18 ^^^ (word 15 >>> 3)
    let great := turnRight (word 2) 17 ^^^ turnRight (word 2) 19 ^^^ (word 2 >>> 10)
    words.push (word 16 + small + word 7 + great)) block

/-- Stirs a block into the state of the digest of 256 bits. -/
def stir256 (state : List UInt32) (block : Array UInt32) : List UInt32 :=
  let words := extended256 block
  let step (s : List UInt32) (i : Nat) : List UInt32 :=
    match s with
    | [a, b, c, d, e, f, g, h] =>
      let great := turnRight e 6 ^^^ turnRight e 11 ^^^ turnRight e 25
      let choice := (e &&& f) ^^^ (~~~e &&& g)
      let first := h + great + choice + rootTable.getD i 0 + words.getD i 0
      let small := turnRight a 2 ^^^ turnRight a 13 ^^^ turnRight a 22
      let majority := (a &&& b) ^^^ (a &&& c) ^^^ (b &&& c)
      [first + small + majority, a, b, c, d + first, e, f, g]
    | s => s
  ((List.range 64).foldl step state).zipWith (· + ·) state

/-- The digest of 256 bits. -/
def digest256 (text : List Char) : List Char :=
  wordDigits false ((digestBlocks false text).foldl stir256
    [0x6a09e667, 0xbb67ae85, 0x3c6ef372, 0xa54ff53a, 0x510e527f, 0x9b05688c, 0x1f83d9ab,
     0x5be0cd19])

/-- The digest of 224 bits, which is stirred like that of 256 bits. -/
def digest224 (text : List Char) : List Char :=
  wordDigits false (((digestBlocks false text).foldl stir256
    [0xc1059ed8, 0x367cd507, 0x3070dd17, 0xf70e5939, 0xffc00b31, 0x68581511, 0x64f98fa7,
     0xbefa4fa4]).take 7)

/-! ## Digests of 512 bits -/

/-- The greatest number whose power is no greater than a number, bit by bit from the highest on. -/
def wholeRoot (power n bits : Nat) : Nat :=
  (List.range bits).foldl (fun root i =>
    let next := root + Nat.pow 2 (bits - 1 - i)
    if Nat.pow next power ≤ n then next else root) 0

/-- The first bits behind the point of the roots of primes. -/
def rootBits (power : Nat) (primes : List Nat) : List UInt64 :=
  primes.map fun prime => (wholeRoot power (prime * Nat.pow 2 (64 * power)) 72).toUInt64

/-- The first primes. -/
def firstPrimes (count : Nat) : List Nat :=
  ((List.range 420).filter fun n =>
    2 ≤ n && (List.range n).all fun d => d < 2 || n % d ≠ 0).take count

/-- A long word turned to the right. -/
def turnLongRight (x : UInt64) (count : UInt64) : UInt64 :=
  (x >>> count) ||| (x <<< (64 - count))

/-- The words of a block with those that follow from them. -/
def extended512 (block : Array UInt64) : Array UInt64 :=
  (List.range 64).foldl (fun words i =>
    let word (back : Nat) : UInt64 := words.getD (16 + i - back) 0
    let small := turnLongRight (word 15) 1 ^^^ turnLongRight (word 15) 8 ^^^ (word 15 >>> 7)
    let great := turnLongRight (word 2) 19 ^^^ turnLongRight (word 2) 61 ^^^ (word 2 >>> 6)
    words.push (word 16 + small + word 7 + great)) block

/-- Stirs a block into the state of the digest of 512 bits. -/
def stir512 (roots : Array UInt64) (state : List UInt64) (block : Array UInt64) : List UInt64 :=
  let words := extended512 block
  let step (s : List UInt64) (i : Nat) : List UInt64 :=
    match s with
    | [a, b, c, d, e, f, g, h] =>
      let great := turnLongRight e 14 ^^^ turnLongRight e 18 ^^^ turnLongRight e 41
      let choice := (e &&& f) ^^^ (~~~e &&& g)
      let first := h + great + choice + roots.getD i 0 + words.getD i 0
      let small := turnLongRight a 28 ^^^ turnLongRight a 34 ^^^ turnLongRight a 39
      let majority := (a &&& b) ^^^ (a &&& c) ^^^ (b &&& c)
      [first + small + majority, a, b, c, d + first, e, f, g]
    | s => s
  ((List.range 80).foldl step state).zipWith (· + ·) state

/-- The words of eight bytes. -/
def longWordsOfBytes : List Nat → List UInt64
  | a :: b :: c :: d :: e :: f :: g :: h :: rest =>
    ([a, b, c, d, e, f, g, h].foldl (fun n byte => 256 * n + byte) 0).toUInt64 ::
      longWordsOfBytes rest
  | _ => []

/-- The blocks of sixteen long words. `fuel` bounds their number. -/
def longBlocksOf : Nat → List UInt64 → List (Array UInt64)
  | 0, _ | _, [] => []
  | fuel + 1, words => (words.take 16).toArray :: longBlocksOf fuel (words.drop 16)

/-- The words of a digest that starts in a state. The text is filled up to blocks of 128 bytes. -/
def longDigest (start : List UInt64) (text : List Char) : List UInt64 :=
  let zeros := (239 - text.length % 128) % 128 + 8
  let tail := (List.range 8).map fun i => 8 * text.length / Nat.pow 256 (7 - i) % 256
  let words := longWordsOfBytes (text.map Char.toNat ++ 0x80 :: List.replicate zeros 0 ++ tail)
  let roots := (rootBits 3 (firstPrimes 80)).toArray
  (longBlocksOf (words.length + 1) words).foldl (stir512 roots) start

/-- The hexadecimal digits of long words. -/
def longWordDigits (words : List UInt64) : List Char :=
  words.flatMap fun word =>
    let digits := Nat.toDigits 16 word.toNat
    List.replicate (16 - digits.length) '0' ++ digits

/-- The digest of 512 bits. -/
def digest512 (text : List Char) : List Char :=
  longWordDigits (longDigest (rootBits 2 (firstPrimes 8)) text)

/-- The digest of 384 bits, which is stirred like that of 512 bits. -/
def digest384 (text : List Char) : List Char :=
  longWordDigits ((longDigest (rootBits 2 ((firstPrimes 16).drop 8)) text).take 6)

/-! ## Sums -/

/-- The remainder of a text as a polynomial, with the bytes of its length behind it. -/
def polynomialSum (text : List Char) : UInt32 :=
  let addBit (sum : UInt32) (bit : Bool) : UInt32 :=
    let isHigh := sum &&& 0x80000000 != 0
    (sum <<< 1) ^^^ (if isHigh != bit then 0x04c11db7 else 0)
  let addByte (sum : UInt32) (byte : Nat) : UInt32 :=
    (List.range 8).foldl (fun sum i => addBit sum (byte / Nat.pow 2 (7 - i) % 2 = 1)) sum
  let lengthBytes := ((List.range 8).map fun i => text.length / Nat.pow 256 i).takeWhile (0 < ·)
  ~~~((text.map Char.toNat ++ lengthBytes.map (· % 256)).foldl addByte 0)

/-- Prints the digests of files with their names. -/
def printDigests (digest : List Char → List Char) (arguments : List (List Char)) : Act Unit := do
  let a ← ({ plain := "btcwz", long := [⟨"binary", 'b', false⟩, ⟨"text", 't', false⟩] } :
    OptionTable).read arguments
  for path in if a.operands.isEmpty then [['-']] else a.operands do
    match ← readSource path with
    | .ok text => printLine (digest text ++ (if a.has 'b' then " *" else "  ").toList ++ path)
    | .error error => complainWith 1 (nameReason path error)

/-- The sum of bytes that is turned to the right by a bit before each of them. -/
def turnedSum (text : List Char) : Nat :=
  text.foldl (fun sum c => (sum / 2 + sum % 2 * 32768 + c.toNat) % 65536) 0

/-- The sum of bytes in sixteen bits, into which what exceeds them is carried. -/
def carriedSum (text : List Char) : Nat :=
  let sum := (text.map Char.toNat).foldl (· + ·) 0
  let folded := sum % 65536 + sum / 65536 % 65536
  folded % 65536 + folded / 65536

/-- Prints short sums of files and the numbers of their blocks. -/
def sum (arguments : List (List Char)) : Act Unit := do
  let a ← ({ plain := "rs", long := [⟨"sysv", 's', false⟩] } : OptionTable).read arguments
  let isCarried := a.last? ['r', 's'] = some 's'
  for (path, text) in ← readSources a.operands 1 nameReason do
    let name := if a.operands.isEmpty then [] else ' ' :: path
    if isCarried then
      printLine (digitsOf (carriedSum text) ++ ' ' :: digitsOf ((text.length + 511) / 512) ++ name)
    else
      let digits := digitsOf (turnedSum text)
      printLine (List.replicate (5 - digits.length) '0' ++ digits ++ ' ' ::
        padLeft 5 (digitsOf ((text.length + 1023) / 1024)) ++ name)

/-- Prints the polynomial sums and the lengths of files. -/
def cksum (arguments : List (List Char)) : Act Unit := do
  let a ← ({ plain := "" } : OptionTable).read arguments
  let sources ← readSources a.operands 1 nameReason
  for (path, text) in sources do
    printLine (digitsOf (polynomialSum text).toNat ++ ' ' :: digitsOf text.length ++
      if a.operands.isEmpty then [] else ' ' :: path)

end TemplateInspector.Utility
