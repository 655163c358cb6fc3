import TemplateInspector.Machine

/-!
# Where joined paths lead

A path is followed segment by segment, so a path that was joined from two is followed through the
first and then through the second. Only the limits on the text of a path are about the whole.
-/

namespace TemplateInspector

/-- A step with others behind it succeeds if it does and the others do. -/
theorem except_bind_eq_ok_iff {ε α β : Type} {first : Except ε α} {next : α → Except ε β}
    {result : β} :
    (first >>= next) = .ok result ↔ ∃ value, first = .ok value ∧ next value = .ok result := by
  cases first <;> simp [bind, Except.bind]

namespace Path

/-- There is always a segment. -/
theorem divide_ne_nil (separator : Char) (text : List Char) : divide separator text ≠ [] := by
  cases text with
  | nil => simp [divide]
  | cons c rest =>
    unfold divide
    split
    · simp
    · split <;> simp

/-- A separator divides what is before it from what is behind it. -/
theorem divide_append (separator : Char) (front back : List Char) :
    divide separator (front ++ separator :: back) =
      divide separator front ++ divide separator back := by
  induction front with
  | nil => simp [divide]
  | cons c front ih =>
    simp only [List.cons_append, divide]
    by_cases hc : c = separator
    · simp [hc, ih]
    · obtain ⟨segment, segments, hfront⟩ :=
        List.exists_cons_of_ne_nil (divide_ne_nil separator front)
      simp [hc, ih, hfront]

/-- A path has a segment. -/
theorem segments_ne_nil (path : String) : segments path ≠ [] := by
  simpa [segments] using divide_ne_nil '/' path.toList

/-- A slash divides the segments of two paths. -/
theorem segments_append (front back : String) :
    segments (front ++ "/" ++ back) = segments front ++ segments back := by
  have htext : (front ++ "/" ++ back).toList = front.toList ++ '/' :: back.toList := by simp
  rw [segments, htext, divide_append, List.map_append, segments, segments]

/-- A slash at the end of a path is followed by an empty segment. -/
theorem segments_append_slash (front : String) :
    segments (front ++ "/") = segments front ++ [""] := by
  have h := segments_append front ""
  rwa [String.append_empty] at h

/-- A path that ends with a slash, without that slash. -/
theorem exists_eq_append_slash {path : String} (h : path.toList.getLast? = some '/') :
    ∃ front, path = front ++ "/" := by
  obtain ⟨front, hfront⟩ := List.getLast?_eq_some_iff.mp h
  exact ⟨String.ofList front, String.toList_injective (by simp [hfront])⟩

/-- A relative path is joined to a base behind a slash, which may be the one that the base ends
with. -/
theorem join_cases {base path : String} (hbase : base ≠ "") (hpath : isAbsolute path = false) :
    join base path = base ++ "/" ++ path ∨
      ∃ front, base = front ++ "/" ∧ join base path = front ++ "/" ++ path := by
  by_cases hslash : base.toList.getLast? = some '/'
  · obtain ⟨front, rfl⟩ := exists_eq_append_slash hslash
    exact .inr ⟨front, rfl, by simp [join, hpath]⟩
  · exact .inl (by simp [join, hpath, hbase, hslash])

/-- An absolute path is not affected by what it is joined to. -/
theorem join_of_isAbsolute {path : String} (h : isAbsolute path = true) (base : String) :
    join base path = path := by
  simp [join, h]

/-- Whether a path is absolute is up to its beginning. -/
theorem isAbsolute_append {front : String} (hfront : front ≠ "") (back : String) :
    isAbsolute (front ++ back) = isAbsolute front := by
  obtain ⟨c, rest, hc⟩ := List.exists_cons_of_ne_nil fun h => hfront (String.toList_eq_nil_iff.mp h)
  simp [isAbsolute, hc]

/-- A relative path that is joined to a base starts where the base starts. -/
theorem isAbsolute_join {base path : String} (hbase : base ≠ "") (hpath : isAbsolute path = false) :
    isAbsolute (join base path) = isAbsolute base := by
  rcases join_cases hbase hpath with hjoin | ⟨front, rfl, hjoin⟩
  · rw [hjoin, String.append_assoc, isAbsolute_append hbase]
  · rw [hjoin, isAbsolute_append hbase]

/-- There is a slash in every path that was joined to a base. -/
theorem slash_mem_join {base : String} (hbase : base ≠ "") (path : String) :
    '/' ∈ (join base path).toList := by
  cases hpath : isAbsolute path with
  | true =>
    rw [join_of_isAbsolute hpath]
    exact List.mem_of_head? (by simpa [isAbsolute] using hpath)
  | false =>
    rcases join_cases hbase hpath with hjoin | ⟨front, -, hjoin⟩ <;> simp [hjoin]

end Path

/-- Whether this is a file. -/
def FileNode.isFile : FileNode → Bool
  | .file .. | .utility _ => true
  | .directory | .sink => false

namespace FileTree

variable {tree : FileTree}

/-- Segments are followed through the first of them and then through the others. -/
theorem walk_append (place : Place) (front back : List String) :
    tree.walk place (front ++ back) = tree.walk place front >>= (tree.walk · back) := by
  induction front generalizing place with
  | nil => rfl
  | cons segment front ih =>
    simp only [List.cons_append, walk, ih]
    split
    case h_2 =>
      split
      · rfl
      · split
        · rfl
        · split <;> rfl
    all_goals rfl

/-- An idle segment before others leads nowhere else. -/
theorem walk_idle_cons {segment : String} (hidle : Path.isIdle segment = true) (place : Place)
    {rest : List String} (hrest : rest ≠ []) :
    tree.walk place (segment :: rest) = tree.walk place rest := by
  obtain ⟨next, rest, rfl⟩ := List.exists_cons_of_ne_nil hrest
  rw [walk]
  split <;> simp_all [walk]

/-- A relative path that is joined to a base is followed from where the base leads. -/
theorem walk_join {base path : String} (hbase : base ≠ "") (hpath : Path.isAbsolute path = false)
    (place : Place) :
    tree.walk place (Path.segments (Path.join base path)) =
      tree.walk place (Path.segments base) >>= (tree.walk · (Path.segments path)) := by
  rcases Path.join_cases hbase hpath with hjoin | ⟨front, rfl, hjoin⟩
  · rw [hjoin, Path.segments_append, walk_append]
  · -- The segment behind the slash that the base ends with is idle before those of the path.
    have hslash (next : Place) : tree.walk next (Path.segments path) =
        tree.walk next ([""] ++ Path.segments path) :=
      (walk_idle_cons rfl next (Path.segments_ne_nil path)).symm
    rw [hjoin, Path.segments_append, Path.segments_append_slash, ← walk_append, List.append_assoc,
      walk_append, walk_append]
    simp only [hslash]

/-- An absolute path leads to the same place from everywhere. -/
theorem resolve_of_isAbsolute {path : String} (h : Path.isAbsolute path = true)
    (start other : Place) : tree.resolve start path = tree.resolve other path := by
  simp only [resolve, h, ite_true]

/-- A path leads to a place if its text is within the limits and its segments lead there. -/
theorem resolve_eq_ok_iff {start place : Place} {path : String} :
    tree.resolve start path = .ok place ↔
      '\x00' ∉ path.toList ∧ path ≠ "" ∧ path.utf8ByteSize ≤ maxPathSize ∧
      tree.walk (if Path.isAbsolute path then [] else start) (Path.segments path) = .ok place := by
  unfold resolve
  by_cases hnull : '\x00' ∈ path.toList
  · simp [hnull]
  by_cases hempty : path = ""
  · simp [hempty]
  by_cases hsize : path.utf8ByteSize ≤ maxPathSize
  · simp [hnull, hempty, hsize, Nat.not_lt.mpr hsize]
  · simp [hnull, hempty, hsize, Nat.lt_of_not_le hsize]

/-- Where a path with a text within the limits leads is up to its segments alone. -/
theorem resolve_of_resolve_eq_ok {start place : Place} {path : String}
    (h : tree.resolve start path = .ok place) (other : Place) :
    tree.resolve other path =
      tree.walk (if Path.isAbsolute path then [] else other) (Path.segments path) := by
  obtain ⟨hnull, hempty, hsize, -⟩ := resolve_eq_ok_iff.mp h
  simp [resolve, hnull, hempty, Nat.not_lt.mpr hsize]

/-- Two starts from which a base leads to the same place are the same for a path that is joined to
it. -/
theorem resolve_join_congr {base path : String} {start other place : Place}
    (hstart : tree.resolve start base = .ok place) (hother : tree.resolve other base = .ok place) :
    tree.resolve start (Path.join base path) = tree.resolve other (Path.join base path) := by
  cases hpath : Path.isAbsolute path with
  | true =>
    rw [Path.join_of_isAbsolute hpath]
    exact resolve_of_isAbsolute hpath ..
  | false =>
    obtain ⟨-, hbase, -, hstart⟩ := resolve_eq_ok_iff.mp hstart
    obtain ⟨-, -, -, hother⟩ := resolve_eq_ok_iff.mp hother
    simp only [resolve, Path.isAbsolute_join hbase hpath, walk_join hbase hpath, hstart, hother]

/-- A relative path that is joined to a base leads, from anywhere, on from where the base leads. -/
theorem resolve_join {base path : String} {start place file : Place}
    (hpath : Path.isAbsolute path = false) (hbase : tree.resolve start base = .ok place)
    (hjoin : tree.resolve start (Path.join base path) = .ok file) (other : Place) :
    tree.resolve other (Path.join base path) =
      tree.resolve other base >>= (tree.walk · (Path.segments path)) := by
  have hne : base ≠ "" := (resolve_eq_ok_iff.mp hbase).2.1
  rw [resolve_of_resolve_eq_ok hjoin, resolve_of_resolve_eq_ok hbase,
    Path.isAbsolute_join hne hpath, walk_join hne hpath]

/-- A path leads to what is at the place to which it leads. -/
theorem find_eq_ok_iff {start : Place} {path : String} {node : FileNode} :
    tree.find start path = .ok node ↔
      ∃ place, tree.resolve start path = .ok place ∧ tree.node? place = some node := by
  rw [find, except_bind_eq_ok_iff]
  refine exists_congr fun place => and_congr_right fun _ => ?_
  cases tree.node? place <;> simp

/-- Whether there is a file at a place. -/
def isFileAt (tree : FileTree) (place : Place) : Bool :=
  (tree.node? place).any FileNode.isFile

/-- A path leads to a file if there is one at the place to which it leads. -/
theorem isFile_iff {start : Place} {path : String} :
    tree.isFile start path = true ↔
      ∃ place, tree.resolve start path = .ok place ∧ tree.isFileAt place = true := by
  have hfind : tree.isFile start path = true ↔
      ∃ node, tree.find start path = .ok node ∧ node.isFile = true := by
    unfold isFile
    cases tree.find start path with
    | error error => simp
    | ok node => cases node <;> simp [FileNode.isFile]
  simp only [hfind, find_eq_ok_iff, isFileAt, Option.any_eq_true]
  grind

end FileTree

end TemplateInspector
