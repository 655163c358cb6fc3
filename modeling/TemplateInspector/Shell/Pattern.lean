import TemplateInspector.Regex.Reader

/-!
# Shell patterns

In a pattern an asterisk stands for any text, a question mark for any character, and brackets for
one of the characters in them. A quoted character stands for itself, and so does one behind a
backslash.
-/

namespace TemplateInspector.Shell

/-- An item of a pattern. -/
inductive PatternItem
  /-- A character that stands for itself. -/
  | exactly (c : Char)
  /-- Any character. -/
  | one
  /-- Any text. -/
  | many
  /-- A character in one of some ranges, or in none of them. -/
  | among (negated : Bool) (ranges : List (Char × Char))
  deriving DecidableEq, Repr

/-- The ranges of the class of characters whose name in brackets and colons starts a pattern, and
the pattern behind. -/
def classAt? :
    List (Char × Bool) → Option (List (Char × Char) × List (Char × Bool))
  | ('[', false) :: (':', false) :: rest =>
    let name := (rest.map Prod.fst).takeWhile Char.isAlpha
    match rest.drop name.length with
    | (':', false) :: (']', false) :: behind =>
      (Regex.classRanges? (String.ofList name)).map (·, behind)
    | _ => none
  | _ => none

/-- The ranges up to the bracket that closes them, which cannot be the first character, and the
pattern behind. `fuel` bounds the number of characters. -/
def rangesAt? : Nat → Bool → List (Char × Bool) →
    Option (List (Char × Char) × List (Char × Bool))
  | 0, _, _ | _, _, [] => none
  | fuel + 1, isFirst, c :: rest =>
    if c = (']', false) && !isFirst then some ([], rest)
    else match classAt? (c :: rest) with
      | some (ranges, rest) =>
        (rangesAt? fuel false rest).map fun (others, behind) => (ranges ++ others, behind)
      | none =>
        let (low, rest) := match rest with
          | d :: behind => if c = ('\\', false) then (d.1, behind) else (c.1, rest)
          | [] => (c.1, rest)
        let (high, rest) := match rest with
          | ('-', false) :: high :: behind =>
            if high = (']', false) then (low, rest) else (high.1, behind)
          | _ => (low, rest)
        (rangesAt? fuel false rest).map fun (others, behind) => ((low, high) :: others, behind)

/-- The brackets that start behind an opening one, and the pattern behind. -/
def bracketsAt? (pattern : List (Char × Bool)) :
    Option (PatternItem × List (Char × Bool)) :=
  let (negated, body) := match pattern with
    | ('!', false) :: rest => (true, rest)
    | pattern => (false, pattern)
  (rangesAt? (body.length + 1) true body).map fun (ranges, behind) =>
    (.among negated ranges, behind)

/-- The items of a pattern, of whose characters it is known whether they are quoted. -/
def patternItems : Nat → List (Char × Bool) → List PatternItem
  | 0, _ | _, [] => []
  | fuel + 1, (c, quoted) :: rest =>
    if quoted then .exactly c :: patternItems fuel rest
    else if c = '*' then .many :: patternItems fuel rest
    else if c = '?' then .one :: patternItems fuel rest
    else if c = '[' then
      match bracketsAt? rest with
      | some (item, behind) => item :: patternItems fuel behind
      | none => .exactly c :: patternItems fuel rest
    else if c = '\\' then
      match rest with
      | (d, _) :: rest => .exactly d :: patternItems fuel rest
      | [] => [.exactly c]
    else .exactly c :: patternItems fuel rest

/-- Whether a text as a whole has a pattern. -/
def hasPattern : List PatternItem → List Char → Bool
  | [], text => text.isEmpty
  | .many :: items, text =>
    (List.range (text.length + 1)).any fun count => hasPattern items (text.drop count)
  | .exactly c :: items, d :: text => c = d && hasPattern items text
  | .one :: items, _ :: text => hasPattern items text
  | .among negated ranges :: items, c :: text =>
    (ranges.any (fun (low, high) => low ≤ c && c ≤ high) != negated) && hasPattern items text
  | _ :: _, [] => false

/-- A text without the shortest or the longest part at its end, or at its beginning, that has a
pattern. -/
def trimPattern (items : List PatternItem) (atEnd longest : Bool) (text : List Char) : List Char :=
  let counts := List.range (text.length + 1)
  let counts := if longest then counts.reverse else counts
  if atEnd then
    match counts.find? fun count => hasPattern items (text.drop (text.length - count)) with
    | some count => text.take (text.length - count)
    | none => text
  else
    match counts.find? fun count => hasPattern items (text.take count) with
    | some count => text.drop count
    | none => text

end TemplateInspector.Shell
