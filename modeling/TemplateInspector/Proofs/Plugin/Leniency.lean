import TemplateInspector.Plugin.CommandEngine
import TemplateInspector.Proofs.Json.Decode
import TemplateInspector.Proofs.Json.Variation

/-!
# What a reader of results passes over

The result that a plugin prints is read alike however the fields of its objects are ordered,
whatever fields its records have besides those that they declare, and whether a field with a default
is left out or given as that default. The same holds of its parts.
-/

namespace TemplateInspector

/-! ## The format of results -/

/-- The kinds of records that a result is made of. -/
inductive RecordKind
  | result
  | unit
  | type
  | method
  | statement
  | pragma
  | block
  | span
  deriving DecidableEq, Repr

/-- The fields that the records of a kind declare, in order. -/
def RecordKind.fields : RecordKind → List (Json.FieldRule RecordKind)
  | .result => [⟨"code", .one .unit, none⟩, ⟨"document", .one .block, none⟩,
      ⟨"success", .plain, none⟩]
  | .unit => [⟨"namespace", .plain, some .null⟩, ⟨"imports", .plain, some (.array [])⟩,
      ⟨"types", .many .type, some (.array [])⟩]
  | .type => [⟨"name", .plain, none⟩, ⟨"base", .plain, some .null⟩,
      ⟨"methods", .many .method, some (.array [])⟩]
  | .method => [⟨"name", .plain, none⟩, ⟨"statements", .many .statement, some (.array [])⟩]
  | .statement => [⟨"kind", .plain, none⟩, ⟨"value", .one .pragma, none⟩]
  | .pragma => [⟨"line", .plain, none⟩]
  | .block => [⟨"kind", .plain, none⟩, ⟨"span", .one .span, some (Span.encode {})⟩,
      ⟨"content", .plain, some (.ofText "")⟩, ⟨"children", .many .block, some (.array [])⟩]
  | .span => [⟨"start", .plain, none⟩, ⟨"len", .plain, none⟩]

/-- The format of results. -/
def recordSchema : Json.Schema RecordKind where
  fields := RecordKind.fields
  nodup kind := by cases kind <;> decide

variable {value changed : Json} {levels : Nat}

open Json (isKeepable)

/-! ## Source units -/

/-- The content of a statement is read alike before and after a step. -/
theorem Statement.ofParts?_step (h : recordSchema.Step (.one .pragma) value changed)
    (hkeep : changed.isKeepable levels) (kind : String) :
    Statement.ofParts? levels kind value = Statement.ofParts? levels kind changed := by
  unfold Statement.ofParts?
  split
  case h_5 =>
    cases levels with
    | zero => rfl
    | succ levels =>
      rcases h.object_or_item with ⟨fields, others, rfl, rfl⟩ | ⟨_, _, _, _, rfl, rfl, -⟩
      · refine h.bind_record? hkeep fun values changes hentries => ?_
        obtain _ | ⟨hline, _ | _⟩ := hentries
        simp only [hline.required_eq Json.word? rfl fun _ _ hstep _ => hstep.word?_eq]
      -- A pragma is not read from an array, whatever its items are.
      · rfl
  case h_6 => rfl
  all_goals rw [h.text?_eq]

/-- A statement is read alike before and after a step, whichever of its fields comes first. -/
theorem Statement.decode_step (h : recordSchema.Step (.one .statement) value changed)
    (hkeep : changed.isKeepable levels) :
    Statement.decode levels value = Statement.decode levels changed := by
  cases levels with
  | zero => rfl
  | succ levels =>
    exact h.bind_tagged? hkeep rfl fun name _ _ hstep hother => ofParts?_step hstep hother name

/-- A method is read alike before and after a step. -/
theorem Method.decode_step (h : recordSchema.Step (.one .method) value changed)
    (hkeep : changed.isKeepable levels) :
    Method.decode levels value = Method.decode levels changed := by
  cases levels with
  | zero => rfl
  | succ levels =>
    refine h.bind_record? hkeep fun values changes hentries => ?_
    obtain _ | ⟨hname, _ | ⟨hstatements, _ | _⟩⟩ := hentries
    have hname := hname.required_eq Json.text? rfl fun _ _ hstep _ => hstep.text?_eq
    have hstatements := hstatements.defaulted_items?_eq Statement.decode rfl
      fun _ _ _ _ _ hstep hkeep => Statement.decode_step hstep hkeep
    simp only [hname, hstatements]

/-- A type is read alike before and after a step. -/
theorem TypeDecl.decode_step (h : recordSchema.Step (.one .type) value changed)
    (hkeep : changed.isKeepable levels) :
    TypeDecl.decode levels value = TypeDecl.decode levels changed := by
  cases levels with
  | zero => rfl
  | succ levels =>
    refine h.bind_record? hkeep fun values changes hentries => ?_
    obtain _ | ⟨hname, _ | ⟨hbase, _ | ⟨hmethods, _ | _⟩⟩⟩ := hentries
    have hname := hname.required_eq Json.text? rfl fun _ _ hstep _ => hstep.text?_eq
    have hbase := hbase.defaulted_eq (Json.nullable Json.text?) none rfl (fun _ => rfl)
      fun _ _ hstep _ => hstep.nullable_eq hstep.text?_eq
    have hmethods := hmethods.defaulted_items?_eq Method.decode rfl
      fun _ _ _ _ _ hstep hkeep => Method.decode_step hstep hkeep
    simp only [hname, hbase, hmethods]

/-- A unit is read alike before and after a step. -/
theorem SourceUnit.decode_step (h : recordSchema.Step (.one .unit) value changed)
    (hkeep : changed.isKeepable levels) :
    SourceUnit.decode levels value = SourceUnit.decode levels changed := by
  cases levels with
  | zero => rfl
  | succ levels =>
    refine h.bind_record? hkeep fun values changes hentries => ?_
    obtain _ | ⟨hnamespace, _ | ⟨himports, _ | ⟨htypes, _ | _⟩⟩⟩ := hentries
    have hnamespace := hnamespace.defaulted_eq (Json.nullable Json.text?) none rfl (fun _ => rfl)
      fun _ _ hstep _ => hstep.nullable_eq hstep.text?_eq
    have himports := himports.defaulted_items?_eq (fun _ => Json.text?) rfl
      fun _ _ _ _ _ hstep _ => hstep.text?_eq
    have htypes := htypes.defaulted_items?_eq TypeDecl.decode rfl
      fun _ _ _ _ _ hstep hkeep => TypeDecl.decode_step hstep hkeep
    simp only [hnamespace, himports, htypes]

/-! ## Syntax trees -/

/-- A span is read alike before and after a step. -/
theorem Span.decode_step (h : recordSchema.Step (.one .span) value changed)
    (hkeep : changed.isKeepable levels) :
    Span.decode levels value = Span.decode levels changed := by
  cases levels with
  | zero => rfl
  | succ levels =>
    refine h.bind_record? hkeep fun values changes hentries => ?_
    obtain _ | ⟨hstart, _ | ⟨hlen, _ | _⟩⟩ := hentries
    have hstart := hstart.required_eq Json.word? rfl fun _ _ hstep _ => hstep.word?_eq
    have hlen := hlen.required_eq Json.word? rfl fun _ _ hstep _ => hstep.word?_eq
    simp only [hstart, hlen]

/-- The default of a span is read as the span of nothing at the beginning. -/
theorem Span.decode_default (h : (Span.encode {}).isKeepable levels) :
    Span.decode levels (Span.encode {}) = some {} := by
  obtain ⟨level, rfl⟩ := Nat.exists_eq_add_one.mpr (Json.isKeepable_object.mp h).1
  rfl

/-- The children of a tree are a list that is empty by default. -/
theorem Block.decode_succ (levels : Nat) (json : Json) :
    Block.decode (levels + 1) json = do
      let [kind, span, content, children] ←
        Json.record? ["kind", "span", "content", "children"] json | none
      let kind ← Json.required (fun json => Json.variant? levels json >>= BlockKind.ofName?) kind
      let span ← Json.defaulted (Span.decode levels) {} span
      let content ← Json.defaulted Json.text? "" content
      let children ← Json.defaulted (Json.items? Block.decode levels) [] children
      return { kind, span, content, children } := by
  rw [Block.decode]
  refine Option.bind_congr fun values hvalues => ?_
  clear hvalues
  rcases values with _ | ⟨kind, _ | ⟨span, _ | ⟨content, _ | ⟨children, _ | _⟩⟩⟩⟩
  case cons.cons.cons.cons.nil =>
    refine Option.bind_congr fun kind _ => Option.bind_congr fun span _ =>
      Option.bind_congr fun content _ => ?_
    rcases children with _ | _ | _ | _ | _ | _ | _ <;> cases levels <;> rfl
  all_goals rfl

/-- A tree is read alike before and after a step, which may be at any depth. -/
theorem Block.decode_step (h : recordSchema.Step (.one .block) value changed)
    (hkeep : changed.isKeepable levels) :
    Block.decode levels value = Block.decode levels changed := by
  -- The children have fewer levels than the tree, and a step at any depth is a step inside one.
  induction levels using Nat.strongRecOn generalizing value changed with
  | _ levels ih =>
  cases levels with
  | zero => rfl
  | succ levels =>
    rw [Block.decode_succ, Block.decode_succ]
    refine h.bind_record? hkeep fun values changes hentries => ?_
    obtain _ | ⟨hkind, _ | ⟨hspan, _ | ⟨hcontent, _ | ⟨hchildren, _ | _⟩⟩⟩⟩ := hentries
    have hkind := hkind.required_eq
      (fun json => Json.variant? levels json >>= BlockKind.ofName?) rfl
      fun _ _ hstep _ => by rw [hstep.variant?_eq]
    have hspan := hspan.defaulted_eq (Span.decode levels) {} rfl Span.decode_default
      fun _ _ hstep hkeep => Span.decode_step hstep hkeep
    have hcontent := hcontent.defaulted_eq Json.text? "" rfl (fun _ => rfl)
      fun _ _ hstep _ => hstep.text?_eq
    have hchildren := hchildren.defaulted_items?_eq Block.decode rfl
      fun level hlevel _ _ _ hstep hkeep => ih level (by omega) hstep hkeep
    simp only [hkind, hspan, hcontent, hchildren]

/-! ## Results -/

/-- A result is read alike before and after a step. -/
theorem GenerationResult.decode_step (h : recordSchema.Step (.one .result) value changed)
    (hkeep : changed.isKeepable levels) :
    GenerationResult.decode levels value = GenerationResult.decode levels changed := by
  cases levels with
  | zero => rfl
  | succ levels =>
    refine h.bind_record? hkeep fun values changes hentries => ?_
    obtain _ | ⟨hcode, _ | ⟨hdocument, _ | ⟨hsuccess, _ | _⟩⟩⟩ := hentries
    have hcode := hcode.required_eq (SourceUnit.decode levels) rfl
      fun _ _ hstep hkeep => SourceUnit.decode_step hstep hkeep
    have hdocument := hdocument.required_eq (Block.decode levels) rfl
      fun _ _ hstep hkeep => Block.decode_step hstep hkeep
    have hsuccess := hsuccess.required_eq Json.bool? rfl fun _ _ hstep _ => hstep.bool?_eq
    simp only [hcode, hdocument, hsuccess]

/-- An optional result is read alike from values that differ by any number of steps. -/
theorem GenerationResult.decodeOption_eq (h : recordSchema.Varies (.one .result) value changed) :
    GenerationResult.decodeOption value = GenerationResult.decodeOption changed :=
  h.eq_of_step fun _ _ hstep hkeep => hstep.nullable_eq (decode_step hstep hkeep)

/-- Results are read leniently, also by those who run an engine and read the bytes that it prints,
and so are units, trees and statements. Whether there is a value and which one does not depend on
the order of the fields of any object, on fields that a record does not declare, or on whether a
field is left out or given as its default. In particular a statement may have its content before its
kind, which then has to be kept until the kind is known. -/
theorem formats_read_leniently :
    (∀ value changed, recordSchema.Varies (.one .result) value changed →
      GenerationResult.decodeOption value = GenerationResult.decodeOption changed) ∧
    (∀ output output' value changed, Json.parseBytes output = some value →
      Json.parseBytes output' = some changed → recordSchema.Varies (.one .result) value changed →
      CommandEngine.parseOutput output = CommandEngine.parseOutput output') ∧
    (∀ value changed, recordSchema.Varies (.one .unit) value changed →
      SourceUnit.decode Json.maxLevels value = SourceUnit.decode Json.maxLevels changed) ∧
    (∀ value changed, recordSchema.Varies (.one .block) value changed →
      Block.decode Json.maxLevels value = Block.decode Json.maxLevels changed) ∧
    (∀ value changed, recordSchema.Varies (.one .statement) value changed →
      Statement.decode Json.maxLevels value = Statement.decode Json.maxLevels changed) ∧
    ∀ kind content,
      isKeepable Json.maxLevels (.ofFields [("kind", kind), ("value", content)]) →
      Statement.decode Json.maxLevels (.ofFields [("value", content), ("kind", kind)]) =
        Statement.decode Json.maxLevels (.ofFields [("kind", kind), ("value", content)]) := by
  refine ⟨fun _ _ => GenerationResult.decodeOption_eq, ?bytes, ?unit, ?block, ?statement, ?swapped⟩
  case bytes =>
    intro output output' value changed houtput houtput' h
    rw [CommandEngine.parseOutput, CommandEngine.parseOutput, houtput, houtput']
    exact GenerationResult.decodeOption_eq h
  case unit => exact fun _ _ h => h.eq_of_step fun _ _ => SourceUnit.decode_step
  case block => exact fun _ _ h => h.eq_of_step fun _ _ => Block.decode_step
  case statement => exact fun _ _ h => h.eq_of_step fun _ _ => Statement.decode_step
  case swapped => exact fun kind content hkeep => Statement.decode_step (.permute (.swap ..)) hkeep

/-- A result without the fields that have a default. -/
def shortResult : Json :=
  .ofFields [("code", .object []), ("document", .ofFields [("kind", .ofText "document")]),
    ("success", .bool true)]

/-- The same result, which begins with its document and gives the document a span. -/
def spreadResult : Json :=
  .ofFields [("document", .ofFields [("span", Span.encode {}), ("kind", .ofText "document")]),
    ("code", .object []), ("success", .bool true)]

/-- The result without defaults is integral. -/
theorem isIntegral_shortResult : shortResult.IsIntegral := by
  have hcode : (Json.object []).IsIntegral := .object (by simp)
  have hdocument : (Json.ofFields [("kind", .ofText "document")]).IsIntegral :=
    Json.isIntegral_ofFields (by simp [Json.isIntegral_ofText])
  exact Json.isIntegral_ofFields (by simp [hcode, hdocument, Json.IsIntegral.bool])

/-- The result with a span is integral. -/
theorem isIntegral_spreadResult : spreadResult.IsIntegral := by
  have hcode : (Json.object []).IsIntegral := .object (by simp)
  have hspan : (Span.encode {}).IsIntegral :=
    Json.isIntegral_ofFields (by simp [Json.isIntegral_ofNat])
  have hdocument :
      (Json.ofFields [("span", Span.encode {}), ("kind", .ofText "document")]).IsIntegral :=
    Json.isIntegral_ofFields (by simp [hspan, Json.isIntegral_ofText])
  exact Json.isIntegral_ofFields (by simp [hcode, hdocument, Json.IsIntegral.bool])

/-- A program that begins with the document and gives its span is understood like one that does not,
and so is one that gives the types of a unit, though there are none, or a column beside the line of
a pragma, which it prints before the kind. -/
theorem formats_read_leniently_spread :
    GenerationResult.decodeOption spreadResult =
      some (some ⟨⟨none, [], []⟩, ⟨.document, {}, "", []⟩, true⟩) ∧
    GenerationResult.decodeOption shortResult = GenerationResult.decodeOption spreadResult ∧
    CommandEngine.parseOutput (Json.compact shortResult).toUTF8 =
      CommandEngine.parseOutput (Json.compact spreadResult).toUTF8 ∧
    SourceUnit.decode Json.maxLevels (.object []) =
      SourceUnit.decode Json.maxLevels (.ofFields [("types", .array [])]) ∧
    Block.decode Json.maxLevels (.ofFields [("kind", .ofText "document")]) =
      Block.decode Json.maxLevels
        (.ofFields [("span", Span.encode {}), ("kind", .ofText "document")]) ∧
    Statement.decode Json.maxLevels
        (.ofFields [("kind", .ofText "line_pragma"), ("value", .ofFields [("line", .ofNat 3)])]) =
      Statement.decode Json.maxLevels (.ofFields
        [("value", .ofFields [("column", .ofNat 5), ("line", .ofNat 3)]),
          ("kind", .ofText "line_pragma")]) := by
  have htypes : recordSchema.Step (.one .unit) (.object []) (.ofFields [("types", .array [])]) := by
    have hrule : ⟨"types", .many .type, some (.array [])⟩ ∈ recordSchema.fields .unit :=
      .tail _ (.tail _ (.head _))
    exact .default hrule rfl (by decide)
  have hspan : recordSchema.Step (.one .block) (.ofFields [("kind", .ofText "document")])
      (.ofFields [("span", Span.encode {}), ("kind", .ofText "document")]) := by
    have hrule : ⟨"span", .one .span, some (Span.encode {})⟩ ∈ recordSchema.fields .block :=
      .tail _ (.head _)
    exact .default hrule rfl (by decide)
  have hcolumn : recordSchema.Step (.one .statement)
      (.ofFields [("kind", .ofText "line_pragma"), ("value", .ofFields [("line", .ofNat 3)])])
      (.ofFields [("kind", .ofText "line_pragma"),
        ("value", .ofFields [("column", .ofNat 5), ("line", .ofNat 3)])]) :=
    .field [(some "kind", .ofText "line_pragma")] "value" [] (.undeclared (.ofNat 5) (by decide))
  have hresult : recordSchema.Varies (.one .result) shortResult spreadResult :=
    .trans _ _ _ (.rel _ _ ⟨.field [(some "code", .object [])] "document"
        [(some "success", .bool true)] hspan, by decide +kernel⟩)
      (.rel _ _ ⟨.permute (.swap ..), by decide +kernel⟩)
  obtain ⟨hdecode, hparse, hunit, hblock, hstatement, hswapped⟩ := formats_read_leniently
  exact ⟨by decide +kernel, hdecode _ _ hresult,
    hparse _ _ _ _ (Json.parseBytes_compact isIntegral_shortResult)
      (Json.parseBytes_compact isIntegral_spreadResult) hresult,
    hunit _ _ (.rel _ _ ⟨htypes, by decide⟩),
    hblock _ _ (.rel _ _ ⟨hspan, by decide +kernel⟩),
    (hstatement _ _ (.rel _ _ ⟨hcolumn, by decide +kernel⟩)).trans
      (hswapped _ _ (by decide +kernel)).symm⟩

end TemplateInspector
