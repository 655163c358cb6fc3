/-!
# Paths

Paths are texts whose segments are divided by slashes. The operations here look at the text alone
and never at what a path leads to.
-/

namespace TemplateInspector.Path

/-- Divides characters at a separator. There is one segment more than there are separators. -/
def divide (separator : Char) : List Char → List (List Char)
  | [] => [[]]
  | c :: rest =>
    if c = separator then [] :: divide separator rest
    else match divide separator rest with
      | [] => [[c]]
      | segment :: segments => (c :: segment) :: segments

/-- The segments of a path. -/
def segments (path : String) : List String :=
  (divide '/' path.toList).map String.ofList

/-- Whether a path starts at the root. -/
def isAbsolute (path : String) : Bool :=
  path.toList.head? = some '/'

/-- A path without the slashes at its end. -/
def dropEndSlashes (path : String) : String :=
  String.ofList (path.toList.reverse.dropWhile (· = '/')).reverse

/-- Whether a segment stays where it is. -/
def isIdle (segment : String) : Bool :=
  segment = "" || segment = "."

/-- What a path names, seen from a base path. An absolute path is not affected by its base, and the
empty path leads to the base with a slash at its end. -/
def join (base path : String) : String :=
  if isAbsolute path then path
  else if base = "" || base.toList.getLast? = some '/' then base ++ path
  else base ++ "/" ++ path

/-- A step of a path. -/
inductive Part
  /-- The root. -/
  | root
  /-- The place where a relative path starts, when it is named. -/
  | here
  /-- One level up. -/
  | up
  /-- Down to a name. -/
  | name (name : String)
  deriving DecidableEq, Repr

/-- The step of a segment; idle segments take none. -/
def partOf? (segment : String) : Option Part :=
  if isIdle segment then none else if segment = ".." then some .up else some (.name segment)

/-- The steps of a path. Two paths with the same steps are the same but for idle segments. -/
def parts (path : String) : List Part :=
  let start : List Part :=
    if isAbsolute path then [.root]
    else if (segments path).head? = some "." then [.here]
    else []
  start ++ (segments path).filterMap partOf?

/-- The segments after those that lead through the given names; none if they lead elsewhere. -/
def dropNames : List String → List String → Option (List String)
  | [], segments => some segments
  | _ :: _, [] => none
  | name :: names, segment :: segments =>
    if isIdle segment then dropNames (name :: names) segments
    else if segment = name then dropNames names segments
    else none

/-- Segments without the idle ones at the beginning and at the end. -/
def trimIdle (segments : List String) : List String :=
  ((segments.dropWhile isIdle).reverse.dropWhile isIdle).reverse

/-- The rest of a path below a directory, which is given by the names that lead to it from the root.
None if the path does not lead there by these names. -/
def below? (directory : List String) (path : String) : Option String :=
  if isAbsolute path then
    (dropNames directory (segments path)).map fun rest => "/".intercalate (trimIdle rest)
  else none

end TemplateInspector.Path
