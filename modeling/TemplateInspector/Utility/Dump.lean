import TemplateInspector.Utility.Options

/-!
# Programs that show bytes

Bytes are shown by numbers in columns, or written with sixty-four characters that can be sent as
text.
-/

namespace TemplateInspector.Utility

/-! ## Columns of numbers -/

/-- How items of some bytes are shown. -/
inductive DumpKind
  | character
  | named
  | signed
  | unsigned
  | octal
  | hexadecimal
  deriving DecidableEq

/-- A kind of items and the number of their bytes. -/
structure DumpFormat where
  kind : DumpKind
  size : Nat
  /-- Whether the characters are shown behind the items. -/
  showsText : Bool := false

namespace DumpFormat

/-- The width of an item. -/
def width (f : DumpFormat) : Nat :=
  match f.kind with
  | .character | .named => 3
  | .octal => (8 * f.size + 2) / 3
  | .hexadecimal => 2 * f.size
  | .unsigned => (Nat.toDigits 10 (Nat.pow 2 (8 * f.size) - 1)).length
  | .signed => (Nat.toDigits 10 (Nat.pow 2 (8 * f.size - 1))).length + 1

/-- The number that bytes write, the least byte first. -/
def value (bytes : List Char) : Nat :=
  bytes.foldr (fun c n => 256 * n + c.toNat) 0

/-- The name of a character. -/
def name (c : Char) : List Char :=
  let names := ["nul", "soh", "stx", "etx", "eot", "enq", "ack", "bel", "bs", "ht", "nl", "vt",
    "ff",
    "cr", "so", "si", "dle", "dc1", "dc2", "dc3", "dc4", "nak", "syn", "etb", "can", "em", "sub",
    "esc", "fs", "gs", "rs", "us", "sp"]
  let code := c.toNat % 128
  if code = 127 then "del".toList
  else match names[code]? with
    | some name => name.toList
    | none => [Char.ofNat code]

/-- How a character is shown. -/
def shownCharacter (c : Char) : List Char :=
  match [('\x00', '0'), ('\x07', 'a'), ('\x08', 'b'), ('\t', 't'), ('\n', 'n'), ('\x0b', 'v'),
    ('\x0c', 'f'), ('\r', 'r')].lookup c with
  | some letter => ['\\', letter]
  | none =>
    if ' ' ≤ c && c ≤ '~' then [c]
    else
      let digits := Nat.toDigits 8 c.toNat
      List.replicate (3 - digits.length) '0' ++ digits

/-- An item. -/
def item (f : DumpFormat) (bytes : List Char) : List Char :=
  let n := value bytes
  let zeros (digits : List Char) : List Char :=
    List.replicate (f.width - digits.length) '0' ++ digits
  match f.kind with
  | .character => shownCharacter (bytes.headD ' ')
  | .named => name (bytes.headD ' ')
  | .octal => zeros (Nat.toDigits 8 n)
  | .hexadecimal => zeros (Nat.toDigits 16 n)
  | .unsigned => digitsOf n
  | .signed =>
    if Nat.pow 2 (8 * f.size - 1) ≤ n then decimalOf ((n : Int) - Nat.pow 2 (8 * f.size))
    else digitsOf n

/-- The groups of a number of bytes. `fuel` bounds their number. -/
def groups (size : Nat) : Nat → List Char → List (List Char)
  | 0, _ | _, [] => []
  | fuel + 1, bytes => bytes.take size :: groups size fuel (bytes.drop size)

/-- A line of items, of which each has a share of a common width. -/
def line (f : DumpFormat) (share count : Nat) (bytes : List Char) : List Char :=
  let items := (groups f.size (bytes.length + 1) bytes).flatMap fun bytes =>
    padLeft share (f.item bytes)
  if !f.showsText then items
  else
    padRight (share * (count / f.size)) items ++ "  >".toList ++
      bytes.map (fun c => if ' ' ≤ c && c ≤ '~' then c else '.') ++ ['<']

/-- The formats that a text tells. `fuel` bounds their number. -/
def readAll : Nat → List Char → Option (List DumpFormat)
  | 0, _ => none
  | _, [] => some []
  | fuel + 1, c :: rest => do
    let kind ← match c with
      | 'c' => some DumpKind.character
      | 'a' => some .named
      | 'd' => some .signed
      | 'u' => some .unsigned
      | 'o' => some .octal
      | 'x' => some .hexadecimal
      | _ => none
    let isPlain := kind = .character || kind = .named
    let (size, rest) : Nat × List Char :=
      if isPlain then (1, rest)
      else match rest with
        | 'C' :: rest => (1, rest)
        | 'S' :: rest => (2, rest)
        | 'I' :: rest => (4, rest)
        | 'L' :: rest => (8, rest)
        | rest =>
          let digits := rest.takeWhile Char.isDigit
          (if digits.isEmpty then 4 else valueOf digits, rest.drop digits.length)
    let (showsText, rest) := match rest with
      | 'z' :: rest => (true, rest)
      | rest => (false, rest)
    if !([1, 2, 4, 8].contains size) then none
    else return ⟨kind, size, showsText⟩ :: (← readAll fuel rest)

end DumpFormat

/-- The options of `od`. -/
def odOptions : OptionTable where
  plain := "abcdfilosxBDFHIOXv"
  valued := "AjNSt"
  optional := "w"
  long := [⟨"address-radix", 'A', true⟩, ⟨"format", 't', true⟩, ⟨"read-bytes", 'N', true⟩,
    ⟨"skip-bytes", 'j', true⟩, ⟨"output-duplicates", 'v', false⟩, ⟨"width", 'w', false⟩]

/-- Shows bytes by numbers. -/
def od (arguments : List (List Char)) : Act Unit := do
  let a ← odOptions.read arguments
  let formats ← a.options.filterMapM fun (letter, value) => do
    let named : Option String := [('a', "a"), ('b', "o1"), ('c', "c"), ('d', "u2"), ('i', "d4"),
      ('l', "d8"), ('o', "o2"), ('s', "d2"), ('x', "x2")].lookup letter
    let text? := if letter = 't' then some value else named.map String.toList
    match text? with
    | none => return none
    | some text => match DumpFormat.readAll (text.length + 1) text with
      | some formats => return some formats
      | none => fail 1 ("invalid type string ".toList ++ quoted text)
  let formats := formats.flatten
  let formats := if formats.isEmpty then [⟨.octal, 2, false⟩] else formats
  let sources ← readSources a.operands 1 nameReason
  let text := (sources.flatMap Prod.snd)
  let skipped := ((a.value? 'j').bind natural?).getD 0
  let text := text.drop skipped
  let text := match (a.value? 'N').bind natural? with
    | some count => text.take count
    | none => text
  let count := match a.value? 'w' with
    | some [] => 32
    | some digits => (natural? digits).getD 16
    | none => 16
  let share (f : DumpFormat) : Nat :=
    let least := (formats.map fun g => (g.width + 1 + g.size - 1) / g.size).foldl max 0
    if formats.length = 1 then f.width + 1 else least * f.size
  let address (n : Nat) : List Char :=
    match a.value? 'A' with
    | some ['n'] => []
    | some ['d'] => let digits := digitsOf n; List.replicate (7 - digits.length) '0' ++ digits
    | some ['x'] =>
      let digits := Nat.toDigits 16 n
      List.replicate (6 - digits.length) '0' ++ digits
    | _ =>
      let digits := Nat.toDigits 8 n
      List.replicate (7 - digits.length) '0' ++ digits
  let rows := DumpFormat.groups count (text.length + 1) text
  let _ ← rows.zipIdx.foldlM (fun (last, isElided) (row, i) => do
    let isRepeated := !a.has 'v' && some row = last && row.length = count && i + 1 < rows.length
    if isRepeated then
      if !isElided then printLine ['*']
      return (last, true)
    else
      for (f, k) in formats.zipIdx do
        let start := address (skipped + i * count)
        let start := if k = 0 then start else List.replicate start.length ' '
        printLine (start ++ f.line (share f) count row)
      return (some row, false)) ((none : Option (List Char)), false)
  let final := address (skipped + text.length)
  if !final.isEmpty then printLine final

/-! ## Text for bytes -/

/-- The characters that stand for six bits. -/
def sixBitCharacters : List Char :=
  "ABCDEFGHIJKLMNOPQRSTUVWXYZabcdefghijklmnopqrstuvwxyz0123456789+/".toList

/-- The text for bytes, three of which become four characters. -/
def sixBitText : List Char → List Char
  | a :: b :: c :: rest => digits (65536 * a.toNat + 256 * b.toNat + c.toNat) 4 ++ sixBitText rest
  | [a, b] => digits (65536 * a.toNat + 256 * b.toNat) 3 ++ ['=']
  | [a] => digits (65536 * a.toNat) 2 ++ ['=', '=']
  | [] => []
where
  /-- The first characters for three bytes. -/
  digits (n count : Nat) : List Char :=
    ([n / 262144, n / 4096 % 64, n / 64 % 64, n % 64].take count).map fun i =>
      sixBitCharacters.getD i 'A'

/-- The bytes for a text; what cannot be read ends them. `fuel` bounds the number of steps. -/
def sixBitBytes : Nat → List Char → List Char × Bool
  | 0, _ => ([], true)
  | _, [] => ([], true)
  | fuel + 1, text =>
    let value (c : Char) : Option Nat := sixBitCharacters.idxOf? c
    match text with
    | a :: b :: '=' :: '=' :: rest =>
      match value a, value b with
      | some x, some y =>
        let (others, isWhole) := sixBitBytes fuel rest
        (Char.ofNat ((x * 64 + y) / 16 % 256) :: others, isWhole)
      | _, _ => ([], false)
    | a :: b :: c :: '=' :: rest =>
      match value a, value b, value c with
      | some x, some y, some z =>
        let n := (x * 4096 + y * 64 + z) / 4
        let (others, isWhole) := sixBitBytes fuel rest
        (Char.ofNat (n / 256 % 256) :: Char.ofNat (n % 256) :: others, isWhole)
      | _, _, _ => ([], false)
    | a :: b :: c :: d :: rest =>
      match value a, value b, value c, value d with
      | some x, some y, some z, some w =>
        let n := x * 262144 + y * 4096 + z * 64 + w
        let (others, isWhole) := sixBitBytes fuel rest
        (Char.ofNat (n / 65536) :: Char.ofNat (n / 256 % 256) :: Char.ofNat (n % 256) :: others,
          isWhole)
      | _, _, _, _ => ([], false)
    | _ => ([], false)

/-- Writes bytes as text, or the other way round. -/
def base64 (arguments : List (List Char)) : Act Unit := do
  let a ← ({ plain := "di", valued := "w", long := [⟨"decode", 'd', false⟩,
    ⟨"ignore-garbage", 'i', false⟩, ⟨"wrap", 'w', true⟩] } : OptionTable).read arguments
  let sources ← readSources (a.operands.take 1) 1 nameReason
  let text := sources.flatMap Prod.snd
  if a.has 'd' then
    let kept := text.filter fun c =>
      c ≠ '\n' && (!a.has 'i' || c = '=' || sixBitCharacters.contains c)
    let (bytes, isWhole) := sixBitBytes (kept.length + 1) kept
    print bytes
    if !isWhole then complainWith 1 "invalid input".toList
  else
    let width := ((a.value? 'w').bind natural?).getD 76
    let encoded := sixBitText text
    if width = 0 then print encoded
    else
      for line in DumpFormat.groups width (encoded.length + 1) encoded do printLine line

end TemplateInspector.Utility
