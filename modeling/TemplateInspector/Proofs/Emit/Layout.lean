import TemplateInspector.Proofs.Emit.Comments
import TemplateInspector.Proofs.Text.Casing

/-!
# The layout keeps every line

Each line of a unit stands on a line of its own in the text that is emitted, and its beginning tells
what it is: only the lines of bodies have the indentation of bodies, and only lines that import
something, begin a type or begin a method begin like these. So all of them can be found again in the
text, each once and in the order of the unit. Names cannot disturb this, since no casing leaves a
blank in them. Of what is written as it is, the lines of bodies do not end in a carriage return, and
imports are followed by more; only a namespace may end in one, which its line then loses.
-/

namespace TemplateInspector

open Text

/-- What a line of a unit is. -/
inductive LineKind
  /-- It imports a namespace or module. -/
  | importing
  /-- It begins a type. -/
  | typeHeader
  /-- It begins a method. -/
  | methodHeader
  /-- It belongs to the body of a method. -/
  | body
  deriving DecidableEq, Repr

namespace Dialect

/-- What the lines of each kind begin with. -/
def marks (dialect : Dialect) : List (String × LineKind) :=
  (dialect.bodyIndent, .body) ::
    match dialect with
    | csharp =>
      [("    public ", .methodHeader), ("public class ", .typeHeader), ("using ", .importing)]
    | python => [("    def ", .methodHeader), ("class ", .typeHeader), ("import ", .importing)]
    | rust =>
      [("    fn ", .methodHeader), ("pub struct ", .typeHeader), ("impl ", .typeHeader),
        ("use ", .importing)]
    | typescript =>
      [("  ", .methodHeader), ("export class ", .typeHeader), ("import \"", .importing)]

/-- The kind of a line, told by the first mark with which it begins. A line that ends a method is of
none of the kinds. -/
def kindOf? (dialect : Dialect) (line : String) : Option LineKind :=
  if line ∈ dialect.methodClosing then none
  else (dialect.marks.find? fun mark => mark.1.toList.isPrefixOf line.toList).map Prod.snd

/-- The lines that name a type at its beginning. -/
def typeHeaders (dialect : Dialect) (type : TypeDecl) : List String :=
  (dialect.typeOpening type).filter fun line => line ∉ ["", "\x7b"]

/-- The line that names a method, which is the first of it. -/
def methodHeader (dialect : Dialect) (hasBase : Bool) (name : String) : String :=
  (dialect.methodOpening hasBase name).headD ""

/-- The lines of a kind in a unit, in order. -/
def linesOf (dialect : Dialect) (unit : SourceUnit) : LineKind → List String
  | .importing => unit.imports.map dialect.importLine
  | .typeHeader => unit.types.flatMap dialect.typeHeaders
  | .methodHeader =>
    unit.types.flatMap fun type => type.methods.map fun method =>
      dialect.methodHeader type.base.isSome method.name
  | .body =>
    unit.types.flatMap fun type => type.methods.flatMap fun method =>
      (dialect.bodyLines method.statements).map (dialect.bodyIndent ++ ·)

/-! ## Names -/

/-- The written name of a method has no blanks. -/
theorem isSolid_methodName (dialect : Dialect) (name : String) :
    IsSolid (dialect.methodName name).toList := by
  cases dialect with
  | csharp => exact isSolid_upperCamelCase name
  | python | rust => exact isSolid_snakeCase name
  | typescript => exact isSolid_lowerCamelCase name

/-- So it is on one line. -/
@[simp] theorem isPhysicalLine_methodName (dialect : Dialect) (name : String) :
    IsPhysicalLine (dialect.methodName name) :=
  isPhysicalLine_of_isBlank (dialect.isSolid_methodName name)

/-- The written name of a type is on one line, too. -/
@[simp] theorem isPhysicalLine_typeName (name : String) : IsPhysicalLine (typeName name) :=
  isPhysicalLine_of_isBlank (isSolid_upperCamelCase name)

/-! ## The kinds of the lines -/

/-- The lines of the heading are of none of the kinds. -/
theorem kindOf?_heading (dialect : Dialect) :
    ∀ line ∈ dialect.heading, dialect.kindOf? line = none := by
  cases dialect <;> decide

/-- Nor is the line of a namespace. -/
theorem kindOf?_namespaceLine (dialect : Dialect) (name : String) :
    dialect.kindOf? (dialect.namespaceLine name) = none := by
  cases dialect <;>
    simp [kindOf?, namespaceLine, marks, bodyIndent, methodClosing, ← String.toList_inj]

/-- A line that imports something begins like one. -/
theorem kindOf?_importLine (dialect : Dialect) (name : String) :
    dialect.kindOf? (dialect.importLine name) = some .importing := by
  cases dialect <;>
    simp [kindOf?, importLine, marks, bodyIndent, methodClosing, ← String.toList_inj]

/-- The lines that begin a type are headers, but for empty lines and an opening brace. -/
theorem kindOf?_of_mem_typeOpening (dialect : Dialect) (type : TypeDecl) :
    ∀ line ∈ dialect.typeOpening type,
      dialect.kindOf? line = if line ∈ ["", "\x7b"] then none else some .typeHeader := by
  cases dialect <;> cases hbase : type.base <;>
    simp only [typeOpening, hbase, Option.map_some, Option.map_none, List.forall_mem_cons,
      List.not_mem_nil, false_implies, implies_true, and_true] <;>
    simp [kindOf?, marks, bodyIndent, methodClosing, ← String.toList_inj,
      -String.toList_eq_nil_iff]

/-- The lines that begin a method are its header, but for an opening brace. -/
theorem kindOf?_of_mem_methodOpening (dialect : Dialect) (hasBase : Bool) (name : String) :
    ∀ line ∈ dialect.methodOpening hasBase name,
      dialect.kindOf? line = if line = "    \x7b" then none else some .methodHeader := by
  cases dialect with
  | csharp | python | rust =>
    cases hasBase <;>
      simp only [methodOpening, List.forall_mem_cons, List.not_mem_nil, false_implies,
        implies_true, and_true] <;>
      simp [kindOf?, marks, bodyIndent, methodClosing, ← String.toList_inj]
  | typescript =>
    -- The name begins with no blank, so its line is not indented like that of a body.
    have hname := typescript.isSolid_methodName name
    simp only [methodOpening, List.forall_mem_cons, List.not_mem_nil, false_implies,
      implies_true, and_true]
    rcases hchars : (typescript.methodName name).toList with _ | ⟨c, cs⟩
    · simp [kindOf?, marks, bodyIndent, methodClosing, ← String.toList_inj, hchars]
    · have hc : c ≠ ' ' := by
        rintro rfl
        rw [hchars] at hname
        exact Bool.noConfusion (isSolid_cons.mp hname).1
      simp [kindOf?, marks, bodyIndent, methodClosing, ← String.toList_inj, hchars, hc, hc.symm]

/-- So the header is all that is left without the brace. -/
theorem filter_methodOpening (dialect : Dialect) (hasBase : Bool) (name : String) :
    ((dialect.methodOpening hasBase name).filter fun line => ¬line = "    \x7b") =
      [dialect.methodHeader hasBase name] := by
  cases dialect with
  | csharp | python | rust =>
    cases hasBase <;>
      simp only [methodOpening, methodHeader, List.headD_cons, List.filter_cons,
        List.filter_nil] <;>
      simp [← String.toList_inj]
  | typescript =>
    have hlong : "  " ++ typescript.methodName name ++ "(): void \x7b" ≠ "    \x7b" := by
      intro hsame
      have hlength := congrArg (List.length ∘ String.toList) hsame
      simp only [Function.comp_apply, String.toList_append, List.length_append] at hlength
      have hshort : "  ".toList.length + "(): void \x7b".toList.length ≤
          "    \x7b".toList.length := by
        omega
      exact absurd hshort (by decide)
    exact List.filter_cons_of_pos (decide_eq_true hlong)

/-- A line with the indentation of bodies belongs to one. -/
theorem kindOf?_bodyIndent_append (dialect : Dialect) (line : String) :
    dialect.kindOf? (dialect.bodyIndent ++ line) = some .body := by
  cases dialect <;>
    simp [kindOf?, marks, bodyIndent, methodClosing, ← String.toList_inj]

/-- No other line does. -/
theorem kindOf?_eq_body_iff {dialect : Dialect} {line : String} :
    dialect.kindOf? line = some .body ↔ dialect.bodyIndent.toList <+: line.toList := by
  constructor
  · intro hkind
    rw [kindOf?] at hkind
    split at hkind
    case isTrue => contradiction
    case isFalse =>
      obtain ⟨⟨mark, kind⟩, hfind, rfl⟩ := Option.map_eq_some_iff.mp hkind
      have hmark : mark = dialect.bodyIndent := by
        have hmem := List.mem_of_find?_eq_some hfind
        cases dialect <;> simpa [marks] using hmem
      have hbegins := List.find?_some hfind
      exact List.isPrefixOf_iff_prefix.mp (hmark ▸ hbegins)
  · rintro ⟨rest, hrest⟩
    have hline : line = dialect.bodyIndent ++ String.ofList rest := by
      rw [← String.toList_inj, String.toList_append, String.toList_ofList, hrest]
    rw [hline]
    exact dialect.kindOf?_bodyIndent_append _

/-- The lines that end a method are of none of the kinds. -/
theorem kindOf?_of_mem_methodClosing (dialect : Dialect) :
    ∀ line ∈ dialect.methodClosing, dialect.kindOf? line = none := by
  intro line hline
  rw [kindOf?, if_pos hline]

/-- Nor are those that end a type. -/
theorem kindOf?_of_mem_typeClosing (dialect : Dialect) (type : TypeDecl) :
    ∀ line ∈ dialect.typeClosing type, dialect.kindOf? line = none := by
  cases dialect with
  | python =>
    rw [typeClosing]
    cases type.methods.isEmpty <;> decide
  | csharp | rust | typescript =>
    simp only [typeClosing]
    decide

/-- Lines of one kind are all found under this kind, and none under another. -/
theorem filter_kindOf? {dialect : Dialect} {ls : List String} {kind? : Option LineKind}
    (h : ∀ line ∈ ls, dialect.kindOf? line = kind?) (kind : LineKind) :
    ls.filter (dialect.kindOf? · = some kind) = if kind? = some kind then ls else [] := by
  split
  case isTrue hkind =>
    exact List.filter_eq_self.mpr fun line hline => decide_eq_true ((h line hline).trans hkind)
  case isFalse hkind =>
    exact List.filter_eq_nil_iff.mpr fun line hline hfound =>
      hkind ((h line hline).symm.trans (of_decide_eq_true hfound))

/-- Lines of one kind but for some that are of none are found under this kind, and none under
another. -/
theorem filter_kindOf?_ite {dialect : Dialect} {ls : List String} {plain : String → Prop}
    [DecidablePred plain] {found : LineKind}
    (h : ∀ line ∈ ls, dialect.kindOf? line = if plain line then none else some found)
    (kind : LineKind) :
    ls.filter (dialect.kindOf? · = some kind) =
      if found = kind then ls.filter fun line => ¬plain line else [] := by
  have hkind : ls.filter (dialect.kindOf? · = some kind) =
      ls.filter fun line => found = kind ∧ ¬plain line := by
    refine List.filter_congr fun line hline => ?_
    rw [h line hline]
    by_cases hplain : plain line <;> simp [hplain]
  rw [hkind]
  split
  case isTrue hfound => simp [hfound]
  case isFalse hfound => simp [hfound]

/-- What stands between the heading and the types are imports, and lines of none of the kinds. -/
theorem filter_preamble (dialect : Dialect) (unit : SourceUnit) (kind : LineKind) :
    (dialect.preamble unit).filter (dialect.kindOf? · = some kind) =
      if .importing = kind then unit.imports.map dialect.importLine else [] := by
  have himports : ∀ line ∈ unit.imports.map dialect.importLine,
      dialect.kindOf? line = some .importing :=
    List.forall_mem_map.mpr fun name _ => dialect.kindOf?_importLine name
  have hnamespace : ∀ line ∈ unit.namespaceName.toList.map dialect.namespaceLine,
      dialect.kindOf? line = none :=
    List.forall_mem_map.mpr fun name _ => dialect.kindOf?_namespaceLine name
  cases dialect <;>
    simp only [preamble, List.filter_append, filter_kindOf? himports, filter_kindOf? hnamespace,
      Option.some.injEq, reduceCtorEq, ite_false, List.append_nil, List.nil_append]

/-- The lines of a method of each kind. -/
theorem filter_methodLines (dialect : Dialect) (hasBase : Bool) (method : Method)
    (kind : LineKind) :
    (dialect.methodLines hasBase method).filter (dialect.kindOf? · = some kind) =
      match kind with
      | .importing | .typeHeader => []
      | .methodHeader => [dialect.methodHeader hasBase method.name]
      | .body => (dialect.bodyLines method.statements).map (dialect.bodyIndent ++ ·) := by
  have hbody : ∀ line ∈ (dialect.bodyLines method.statements).map (dialect.bodyIndent ++ ·),
      dialect.kindOf? line = some .body :=
    List.forall_mem_map.mpr fun line _ => dialect.kindOf?_bodyIndent_append line
  simp only [methodLines, List.filter_append,
    filter_kindOf?_ite (dialect.kindOf?_of_mem_methodOpening hasBase method.name),
    filter_methodOpening, filter_kindOf? hbody,
    filter_kindOf? dialect.kindOf?_of_mem_methodClosing]
  cases kind <;> simp

/-- The lines of a type of each kind. -/
theorem filter_typeLines (dialect : Dialect) (type : TypeDecl) (kind : LineKind) :
    (dialect.typeLines type).filter (dialect.kindOf? · = some kind) =
      match kind with
      | .importing => []
      | .typeHeader => dialect.typeHeaders type
      | .methodHeader => type.methods.map fun method =>
        dialect.methodHeader type.base.isSome method.name
      | .body => type.methods.flatMap fun method =>
        (dialect.bodyLines method.statements).map (dialect.bodyIndent ++ ·) := by
  simp only [typeLines, List.filter_append, List.filter_flatMap, filter_methodLines,
    filter_kindOf?_ite (dialect.kindOf?_of_mem_typeOpening type),
    filter_kindOf? (dialect.kindOf?_of_mem_typeClosing type)]
  cases kind <;> simp [typeHeaders, List.map_eq_flatMap]

/-- The lines of a unit that are found under a kind are its lines of this kind, each once and in
order. -/
theorem filter_unitLines (dialect : Dialect) (unit : SourceUnit) (kind : LineKind) :
    (dialect.unitLines unit).filter (dialect.kindOf? · = some kind) =
      dialect.linesOf unit kind := by
  simp only [unitLines, List.filter_append, List.filter_flatMap, filter_typeLines, filter_preamble,
    filter_kindOf? dialect.kindOf?_heading]
  cases kind <;> simp [linesOf]

/-! ## The lines of the text -/

/-- A line that is found on a line of the text as what it is. -/
structure Kept (dialect : Dialect) (line : String) : Prop where
  /-- It holds no line feed. -/
  lineFeed : '\n' ∉ line.toList
  /-- It is whole if it is of one of the kinds. -/
  whole : dialect.kindOf? line ≠ none → withoutReturn line = line
  /-- It is of the same kind there. -/
  kind : dialect.kindOf? (withoutReturn line) = dialect.kindOf? line

/-- A line of a file is kept as it is. -/
theorem kept_of_isLine {dialect : Dialect} {line : String} (h : IsLine line) : dialect.Kept line :=
  ⟨h.lineFeed, fun _ => h.withoutReturn_eq, congrArg dialect.kindOf? h.withoutReturn_eq⟩

/-- The line of a namespace may lose a carriage return, but it stays one of none of the kinds. -/
theorem kept_namespaceLine {dialect : Dialect} {name : String} (h : '\n' ∉ name.toList) :
    dialect.Kept (dialect.namespaceLine name) := by
  have hnone := dialect.kindOf?_namespaceLine
  have hcomment {lead : String} (hlead : IsLine lead)
      (hline : ∀ name, dialect.namespaceLine name = lead ++ name) :
      dialect.Kept (dialect.namespaceLine name) := by
    refine ⟨?_, fun hkind => absurd (hnone name) hkind, ?_⟩
    · rw [hline, String.toList_append, List.mem_append, not_or]
      exact ⟨hlead.lineFeed, h⟩
    · rw [hnone, hline, hlead.withoutReturn_append, ← hline, hnone]
  cases dialect with
  | csharp =>
    refine kept_of_isLine (IsLine.append (by decide) (by decide) ?_)
    rw [String.toList_append, List.mem_append, not_or]
    exact ⟨by decide, h⟩
  | python | rust | typescript => exact hcomment (by decide) fun _ => rfl

/-- A line that imports something is a line of a file. -/
theorem isLine_importLine (dialect : Dialect) {name : String} (h : '\n' ∉ name.toList) :
    IsLine (dialect.importLine name) := by
  have hsnake : IsPhysicalLine (snakeCase name) :=
    isPhysicalLine_of_isBlank (isSolid_snakeCase name)
  cases dialect with
  | csharp =>
    refine IsLine.append (by decide) (by decide) ?_
    rw [String.toList_append, List.mem_append, not_or]
    exact ⟨by decide, h⟩
  | python => exact (isPhysicalLine_append.mpr ⟨by decide, hsnake⟩).isLine
  | rust =>
    have hstart : IsPhysicalLine ("use " ++ snakeCase name) :=
      isPhysicalLine_append.mpr ⟨by decide, hsnake⟩
    exact (isPhysicalLine_append.mpr ⟨hstart, by decide⟩).isLine
  | typescript =>
    have hfeed : '\n' ∉ (escape name).toList := fun hmem =>
      (literalBody_escape name).not_mem _ hmem (by simp)
    refine IsLine.append (by decide) (by decide) ?_
    rw [String.toList_append, List.mem_append, not_or]
    exact ⟨by decide, hfeed⟩

/-- The lines that begin a type are lines of a file. -/
theorem isPhysicalLine_of_mem_typeOpening (dialect : Dialect) (type : TypeDecl) :
    ∀ line ∈ dialect.typeOpening type, IsPhysicalLine line := by
  cases dialect <;> cases hbase : type.base <;>
    simp only [typeOpening, hbase, Option.map_some, Option.map_none, List.forall_mem_cons,
      isPhysicalLine_append, isPhysicalLine_typeName, and_true, List.not_mem_nil, false_implies,
      implies_true] <;>
    decide

/-- So are those that begin a method. -/
theorem isPhysicalLine_of_mem_methodOpening (dialect : Dialect) (hasBase : Bool) (name : String) :
    ∀ line ∈ dialect.methodOpening hasBase name, IsPhysicalLine line := by
  cases dialect <;> cases hasBase <;>
    simp only [methodOpening, List.forall_mem_cons, isPhysicalLine_append,
      isPhysicalLine_methodName, and_true, List.not_mem_nil, false_implies, implies_true] <;>
    decide

/-- No line of a statement ends in a carriage return. -/
theorem getLast?_of_mem_statementLines (dialect : Dialect) (statement : Statement) :
    ∀ line ∈ dialect.statementLines statement, line.toList.getLast? ≠ some '\r' := by
  have hblank : isBlank '\r' ≠ false := by decide
  intro line hline
  cases statement with
  | writeLiteral text =>
    obtain rfl := List.mem_singleton.mp hline
    exact (dialect.isPhysicalLine_literalLine text).isLine.carriageReturn
  | writeExpression expression =>
    obtain rfl := List.mem_singleton.mp hline
    cases dialect <;>
      simp only [expressionLine, String.toList_append, List.getLast?_append] <;> simp
  | code text =>
    obtain ⟨other, -, rfl⟩ := List.mem_map.mp (List.mem_filter.mp hline).1
    rw [trimEnd, String.toList_ofList]
    exact fun hlast => hblank (isBlank_of_getLast?_dropBlanksEnd hlast)
  | comment text =>
    obtain ⟨chars, -, hchars⟩ := mem_statementLines_comment.mp hline
    rw [hchars, List.getLast?_append]
    intro hlast
    rcases Option.or_eq_some_iff.mp hlast with htrim | ⟨-, hmark⟩
    · exact hblank (isBlank_of_getLast?_trimChars htrim)
    · exact dialect.isPhysicalLine_commentMark.isLine.carriageReturn hmark
  | linePragma number =>
    obtain rfl := List.mem_singleton.mp hline
    exact (dialect.isPhysicalLine_pragmaLine number).isLine.carriageReturn

/-- A line of a body is a line of a file if it holds no line feed. -/
theorem isLine_of_mem_bodyLines {dialect : Dialect} {statements : List Statement} {line : String}
    (hline : line ∈ dialect.bodyLines statements) (hfeed : '\n' ∉ line.toList) : IsLine line := by
  refine ⟨hfeed, ?_⟩
  simp only [bodyLines] at hline
  split at hline
  case isTrue =>
    cases dialect with
    | python =>
      obtain rfl := List.mem_singleton.mp hline
      decide
    | csharp | rust | typescript => contradiction
  case isFalse =>
    obtain ⟨statement, -, hmem⟩ := List.mem_flatMap.mp hline
    exact dialect.getLast?_of_mem_statementLines statement line hmem

/-- The indentation of bodies is on one line. -/
theorem isPhysicalLine_bodyIndent (dialect : Dialect) : IsPhysicalLine dialect.bodyIndent := by
  cases dialect <;> decide

/-- An indented line of a body is a line of a file, too. -/
theorem isLine_bodyIndent_append (dialect : Dialect) {line : String} (h : IsLine line) :
    IsLine (dialect.bodyIndent ++ line) := by
  have hindent := dialect.isPhysicalLine_bodyIndent.isLine
  by_cases hnone : line = ""
  · rw [hnone, String.append_empty]
    exact hindent
  · exact h.append hnone hindent.lineFeed

/-- The lines of a type are lines of a file if those of its bodies hold no line feeds. -/
theorem isLine_of_mem_typeLines {dialect : Dialect} {type : TypeDecl}
    (h : ∀ method ∈ type.methods, ∀ line ∈ dialect.bodyLines method.statements,
      '\n' ∉ line.toList) :
    ∀ line ∈ dialect.typeLines type, IsLine line := by
  have hclosing : ∀ line ∈ dialect.methodClosing, IsLine line := by cases dialect <;> decide
  have htypeClosing : ∀ line ∈ dialect.typeClosing type, IsLine line := by
    cases dialect with
    | python =>
      rw [typeClosing]
      cases type.methods.isEmpty <;> decide
    | csharp | rust | typescript =>
      simp only [typeClosing]
      decide
  refine List.forall_mem_append.mpr ⟨List.forall_mem_append.mpr ⟨?_, ?_⟩, htypeClosing⟩
  · exact fun line hline => (dialect.isPhysicalLine_of_mem_typeOpening type line hline).isLine
  · intro line hline
    obtain ⟨method, hmethod, hline⟩ := List.mem_flatMap.mp hline
    rcases List.mem_append.mp hline with hline | hline
    · rcases List.mem_append.mp hline with hline | hline
      · exact (dialect.isPhysicalLine_of_mem_methodOpening _ _ line hline).isLine
      · obtain ⟨other, hother, rfl⟩ := List.mem_map.mp hline
        exact dialect.isLine_bodyIndent_append
          (isLine_of_mem_bodyLines hother (h method hmethod other hother))
    · exact hclosing line hline

/-- All lines of a unit are kept if nothing that is written as it is holds a line feed. -/
theorem kept_of_mem_unitLines {dialect : Dialect} {unit : SourceUnit}
    (hnamespace : ∀ name ∈ unit.namespaceName, '\n' ∉ name.toList)
    (himports : ∀ name ∈ unit.imports, '\n' ∉ name.toList)
    (hbodies : ∀ body ∈ unit.bodies, ∀ line ∈ dialect.bodyLines body, '\n' ∉ line.toList) :
    ∀ line ∈ dialect.unitLines unit, dialect.Kept line := by
  have hheading : ∀ line ∈ dialect.heading, IsLine line := by cases dialect <;> decide
  have hpreamble : ∀ line ∈ dialect.preamble unit, dialect.Kept line := by
    have himport : ∀ line ∈ unit.imports.map dialect.importLine, dialect.Kept line :=
      List.forall_mem_map.mpr fun name hname =>
        kept_of_isLine (dialect.isLine_importLine (himports name hname))
    have hname : ∀ line ∈ unit.namespaceName.toList.map dialect.namespaceLine, dialect.Kept line :=
      List.forall_mem_map.mpr fun name hname =>
        kept_namespaceLine (hnamespace name (Option.mem_toList.mp hname))
    cases dialect with
    | csharp => exact List.forall_mem_append.mpr ⟨himport, hname⟩
    | python | rust | typescript => exact List.forall_mem_append.mpr ⟨hname, himport⟩
  refine List.forall_mem_append.mpr ⟨List.forall_mem_append.mpr ⟨?_, hpreamble⟩, ?_⟩
  · exact fun line hline => kept_of_isLine (hheading line hline)
  · intro line hline
    obtain ⟨type, htype, hline⟩ := List.mem_flatMap.mp hline
    refine kept_of_isLine (isLine_of_mem_typeLines (fun method hmethod => ?_) line hline)
    exact hbodies method.statements
      (List.mem_flatMap.mpr ⟨type, htype, List.mem_map_of_mem hmethod⟩)

/-- What is found under a kind in the text is what is found under it in the unit. -/
theorem filter_map_withoutReturn {dialect : Dialect} {ls : List String}
    (h : ∀ line ∈ ls, dialect.Kept line) (kind : LineKind) :
    (ls.map withoutReturn).filter (dialect.kindOf? · = some kind) =
      ls.filter (dialect.kindOf? · = some kind) := by
  induction ls with
  | nil => rfl
  | cons line ls ih =>
    obtain ⟨hline, hrest⟩ := List.forall_mem_cons.mp h
    rw [List.map_cons, List.filter_cons, List.filter_cons, ih hrest, hline.kind]
    split
    case isTrue hfound =>
      have hkind : dialect.kindOf? line ≠ none := by simp [of_decide_eq_true hfound]
      rw [hline.whole hkind]
    case isFalse => rfl

/-- Emission succeeds and keeps every line, once and in the order of the unit, if the namespace, the
imports and the lines of the bodies hold no line feeds. The lines of the text are those of the unit,
where only the line of the namespace may have lost a carriage return at its end. The lines with the
indentation of bodies are, without it, the lines of the bodies. The lines that begin like an import,
a type or a method are the lines that import something, begin a type or begin a method. -/
theorem emit_keeps_lines (dialect : Dialect) (unit : SourceUnit)
    (hnamespace : ∀ name ∈ unit.namespaceName, '\n' ∉ name.toList)
    (himports : ∀ name ∈ unit.imports, '\n' ∉ name.toList)
    (hbodies : ∀ body ∈ unit.bodies, ∀ line ∈ dialect.bodyLines body, '\n' ∉ line.toList) :
    ∃ text, (Emitter.ofDialect dialect).emit unit = .ok text ∧
      (∀ name, EmitterTable.builtin.render (some ⟨dialect.languageId, name⟩) unit = .ok text) ∧
      lines text = (dialect.unitLines unit).map withoutReturn ∧
      (((lines text).filter fun line => dialect.bodyIndent.toList <+: line.toList).map fun line =>
          String.ofList (line.toList.drop dialect.bodyIndent.toList.length)) =
        unit.types.flatMap (fun type => type.methods.flatMap fun method =>
          dialect.bodyLines method.statements) ∧
      (lines text).filter (dialect.kindOf? · = some .importing) =
        unit.imports.map dialect.importLine ∧
      (lines text).filter (dialect.kindOf? · = some .typeHeader) =
        unit.types.flatMap dialect.typeHeaders ∧
      (lines text).filter (dialect.kindOf? · = some .methodHeader) =
        unit.types.flatMap fun type => type.methods.map fun method =>
          dialect.methodHeader type.base.isSome method.name := by
  have hkept := kept_of_mem_unitLines hnamespace himports hbodies
  have hlines : lines (dialect.emit unit) = (dialect.unitLines unit).map withoutReturn := by
    rw [emit_eq_join]
    exact lines_join_map fun line hline => (hkept line hline).lineFeed
  have hfound (kind : LineKind) :
      (lines (dialect.emit unit)).filter (dialect.kindOf? · = some kind) =
        dialect.linesOf unit kind := by
    rw [hlines, filter_map_withoutReturn hkept, filter_unitLines]
  refine ⟨dialect.emit unit, rfl, fun name => EmitterTable.builtin_render dialect rfl unit, hlines,
    ?_, hfound .importing, hfound .typeHeader, hfound .methodHeader⟩
  have hbody := hfound .body
  simp only [kindOf?_eq_body_iff] at hbody
  rw [hbody]
  have hwithout (line : String) : String.ofList
      ((dialect.bodyIndent ++ line).toList.drop dialect.bodyIndent.toList.length) = line := by
    rw [String.toList_append, List.drop_left, String.ofList_toList]
  simp only [linesOf, List.map_flatMap, List.map_map, Function.comp_def, hwithout, List.map_id']

/-- A TypeScript file of a type without methods and one with two methods, of which one has no body
and one has code on several lines. -/
theorem emit_keeps_lines_typescript :
    let body : List Statement := [.writeLiteral "a\nb", .code "if (x) \x7b \r\n\n  y();\n\x7d"]
    let unit : SourceUnit := {
      namespaceName := some "pages\r"
      imports := ["./base"]
      types := [⟨"empty", none, []⟩, ⟨"home_page", some "page", [⟨"init", []⟩, ⟨"show", body⟩]⟩] }
    (∀ name ∈ unit.namespaceName, '\n' ∉ name.toList) ∧
      (∀ name ∈ unit.imports, '\n' ∉ name.toList) ∧
      (∀ body ∈ unit.bodies, ∀ line ∈ typescript.bodyLines body, '\n' ∉ line.toList) ∧
      ∃ text, (Emitter.ofDialect typescript).emit unit = .ok text ∧
        ((lines text).filter fun line => "    ".toList <+: line.toList).map (fun line =>
            String.ofList (line.toList.drop 4)) =
          ["this.writeLiteral(\"a\\nb\");", "if (x) \x7b", "  y();", "\x7d"] ∧
        (lines text).filter (typescript.kindOf? · = some .typeHeader) =
          ["export class Empty \x7b", "export class HomePage extends Page \x7b"] ∧
        (lines text).filter (typescript.kindOf? · = some .methodHeader) =
          ["  init(): void \x7b", "  show(): void \x7b"] := by
  intro body unit
  have hnamespace : ∀ name ∈ unit.namespaceName, '\n' ∉ name.toList := by decide
  have himports : ∀ name ∈ unit.imports, '\n' ∉ name.toList := by decide
  have hbodies : ∀ body ∈ unit.bodies, ∀ line ∈ typescript.bodyLines body, '\n' ∉ line.toList := by
    decide +kernel
  obtain ⟨text, hemit, -, -, hbody, -, htypes, hmethods⟩ :=
    emit_keeps_lines typescript unit hnamespace himports hbodies
  refine ⟨hnamespace, himports, hbodies, text, hemit, ?_, ?_, ?_⟩
  · refine hbody.trans ?_
    decide +kernel
  · refine htypes.trans ?_
    decide +kernel
  · refine hmethods.trans ?_
    decide +kernel

end Dialect

end TemplateInspector
