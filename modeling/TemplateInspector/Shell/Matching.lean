import TemplateInspector.Files.Tree
import TemplateInspector.Shell.Field
import TemplateInspector.Shell.Pattern
import TemplateInspector.Text.Bytes

/-!
# Fields that name files

A field with a pattern in it stands for the paths that have it, if there are any. A pattern goes
segment by segment; a name that starts with a dot is only found by a segment that does too.
-/

namespace TemplateInspector.Shell

/-- Whether a character of a field makes it a pattern. -/
def isPatternChar (c : Char × Bool) : Bool :=
  !c.2 && (c.1 = '*' || c.1 = '?' || c.1 = '[')

/-- The segments of a field. -/
def fieldSegments : Field → List Field
  | [] => [[]]
  | (c, quoted) :: rest =>
    if c = '/' then [] :: fieldSegments rest
    else match fieldSegments rest with
      | segment :: segments => ((c, quoted) :: segment) :: segments
      | [] => [[(c, quoted)]]

/-- The names in the directory at a path, with those of itself and of the one above; the working
directory for the empty path. -/
def namesIn (files : FileTree) (directory : Place) (path : List Char) : List (List Char) :=
  let shown := Text.shown path
  match files.resolve directory (if shown = "" then "." else shown) with
  | .ok place => ['.'] :: ['.', '.'] :: (files.namesAt place).map Text.bytesOf
  | .error _ => []

/-- The paths with the given beginning whose further segments have patterns. -/
def matchSegments (files : FileTree) (directory : Place) : List Char → List Field → List (List Char)
  | path, [] =>
    match files.find directory (Text.shown path) with
    | .ok _ => [path]
    | .error _ => []
  | path, segment :: segments =>
    let behind : List Char := if segments.isEmpty then [] else ['/']
    if !segment.any isPatternChar then
      matchSegments files directory (path ++ segment.map Prod.fst ++ behind) segments
    else
      let items := patternItems (segment.length + 1) segment
      let names := (namesIn files directory path).filter fun name =>
        hasPattern items name && (name.head? ≠ some '.' || (segment.head?.map Prod.fst) = some '.')
      names.flatMap fun name => matchSegments files directory (path ++ name ++ behind) segments

/-- The texts that a field stands for. -/
def matchFiles (files : FileTree) (directory : Place) (field : Field) : List (List Char) :=
  let text := field.map Prod.fst
  if !field.any isPatternChar then [text]
  else match matchSegments files directory [] (fieldSegments field) with
    | [] => [text]
    | paths => paths

end TemplateInspector.Shell
