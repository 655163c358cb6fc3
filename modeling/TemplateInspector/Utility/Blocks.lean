import TemplateInspector.Utility.Copying

/-!
# Copying in blocks

Bytes are copied from a file or the input to a file or the output, block by block. What is not asked
for is left in the input. At the end the blocks are counted: those that were whole and those that
were not.
-/

namespace TemplateInspector.Utility

/-- The size of blocks if none is given. -/
def defaultBlockSize : Nat := 512

/-- A count of blocks: the whole ones, and one that is not if there are bytes left. -/
def blockCount (size bytes : Nat) : List Char :=
  digitsOf (bytes / size) ++ '+' :: (if bytes % size = 0 then ['0'] else ['1'])

/-- The names of what can be given. -/
def blockOperands : List String :=
  ["if", "of", "bs", "ibs", "obs", "cbs", "count", "skip", "seek", "conv", "status", "iflag",
    "oflag"]

/-- The ways to convert what is copied. -/
def blockConversions : List String :=
  ["ucase", "lcase", "swab", "notrunc", "nocreat", "excl", "noerror", "fsync", "fdatasync", "sync"]

/-- Bytes of which every two have changed places. -/
def swapPairs : List Char → List Char
  | a :: b :: rest => b :: a :: swapPairs rest
  | rest => rest

/-- Bytes as a way to convert them makes them. -/
def convertBytes (bytes : List Char) (conversion : String) : List Char :=
  match conversion with
  | "ucase" => bytes.map Char.toUpper
  | "lcase" => bytes.map Char.toLower
  | "swab" => swapPairs bytes
  | _ => bytes

/-- Reads an argument, which is a name and a value. -/
def readBlockOperand (argument : List Char) : Act (String × List Char) := do
  let name := String.ofList (argument.takeWhile (· ≠ '='))
  if blockOperands.contains name && argument.contains '=' then
    return (name, argument.drop (name.length + 1))
  else refuse 1 ("unrecognized operand ".toList ++ quoted argument)

/-- Copies bytes in blocks. -/
def dd (arguments : List (List Char)) : Act Unit := do
  let operands := (← arguments.mapM readBlockOperand).reverse
  let number? (name : String) : Act (Option Nat) := do
    match operands.lookup name with
    | none => return none
    | some text =>
      match measured? text with
      | some n => return some n
      | none => fail 1 ("invalid number: ".toList ++ quoted text)
  let size? (name : String) : Act (Option Nat) := do
    let size ← number? name
    if size = some 0 then fail 1 ("invalid number: ".toList ++ quoted ['0'])
    return size
  let whole ← size? "bs"
  let inputSize := (whole <|> (← size? "ibs")).getD defaultBlockSize
  let outputSize := (whole <|> (← size? "obs")).getD defaultBlockSize
  let count ← number? "count"
  let skip := (← number? "skip").getD 0
  let seek := (← number? "seek").getD 0
  let conversions := ((operands.lookup "conv").elim [] (Path.divide ',')).map String.ofList
  if let some unknown := conversions.find? fun name => !blockConversions.contains name then
    refuse 1 ("invalid conversion: ".toList ++ quoted unknown.toList)
  let source := (operands.lookup "if").getD "/dev/stdin".toList
  let text ← if isInput source then pure (← get).input
    else match ← readSource source with
      | .ok text => pure text
      | .error error => fail 1 ("failed to open ".toList ++ quotedName source ++ ": ".toList ++
          reasonOf error)
  let used := count.elim text.length fun count => min text.length ((skip + count) * inputSize)
  let copied := (text.take used).drop (skip * inputSize)
  if isInput source then modify fun p => { p with input := p.input.drop used }
  let bytes := conversions.foldl convertBytes copied
  match operands.lookup "of" with
  | none => print bytes
  | some path =>
    let old ← match ← readSource path with
      | .ok old => pure old
      | .error _ => pure []
    let before := old.take (seek * outputSize)
    let gap := List.replicate (seek * outputSize - before.length) '\x00'
    let behind := if conversions.contains "notrunc" then
        old.drop (seek * outputSize + bytes.length) else []
    if let .error error ← writeFile path (before ++ gap ++ bytes ++ behind) then
      fail 1 ("failed to open ".toList ++ quotedName path ++ ": ".toList ++ reasonOf error)
  let status := String.ofList ((operands.lookup "status").getD [])
  if status ≠ "none" then
    note (blockCount inputSize copied.length ++ " records in\n".toList ++
      blockCount outputSize bytes.length ++ " records out\n".toList)
    if status ≠ "noxfer" then
      note (digitsOf bytes.length ++
        (if bytes.length = 1 then " byte" else " bytes").toList ++
        " copied, 1e-05 s, 100 kB/s\n".toList)

end TemplateInspector.Utility
