import TemplateInspector.Controller.Settings
import TemplateInspector.Engine.Literal
import TemplateInspector.Plugin.CommandEngine
import TemplateInspector.Proofs.Json.Decode
import TemplateInspector.Proofs.Syntax.Nodes

/-!
# The formats between an engine and those who use it

A result, its parts, descriptions of engines and the settings of a controller are read back from
the JSON that is written for them, if their numbers are words and the reader's levels suffice. Only
trees can be too deep: every other record has a fixed number of levels.
-/

namespace TemplateInspector

open Json (RoundTrips)

/-! ## Words -/

/-- Whether the number of a statement, if it has one, is a word. -/
def Statement.HasWords : Statement → Prop
  | .linePragma line => line < Nat.pow 2 64
  | _ => True

instance : (statement : Statement) → Decidable statement.HasWords
  | .linePragma line => inferInstanceAs (Decidable (line < Nat.pow 2 64))
  | .writeLiteral _ | .writeExpression _ | .code _ | .comment _ => .isTrue trivial

/-- Whether all numbers in the statements of a unit are words. -/
def SourceUnit.HasWords (unit : SourceUnit) : Prop :=
  ∀ type ∈ unit.types, ∀ method ∈ type.methods, ∀ statement ∈ method.statements, statement.HasWords

instance (unit : SourceUnit) : Decidable unit.HasWords :=
  inferInstanceAs (Decidable (∀ type ∈ unit.types, _))

/-- Whether both numbers of a span are words. -/
def Span.HasWords (span : Span) : Prop :=
  span.start < Nat.pow 2 64 ∧ span.len < Nat.pow 2 64

instance (span : Span) : Decidable span.HasWords :=
  inferInstanceAs (Decidable (_ ∧ _))

/-- Whether all numbers in the spans of a tree are words. -/
def Block.HasWords (block : Block) : Prop :=
  ∀ node ∈ block.nodes, node.span.HasWords

instance (block : Block) : Decidable block.HasWords :=
  inferInstanceAs (Decidable (∀ node ∈ block.nodes, _))

/-- Whether all numbers of a result are words. -/
def GenerationResult.HasWords (result : GenerationResult) : Prop :=
  result.code.HasWords ∧ result.document.HasWords

instance (result : GenerationResult) : Decidable result.HasWords :=
  inferInstanceAs (Decidable (_ ∧ _))

/-! ## Source units -/

/-- The value of a statement is integral. -/
theorem Statement.isIntegral_encode (statement : Statement) : statement.encode.IsIntegral := by
  refine Json.isIntegral_ofFields ?_
  rw [List.forall_mem_cons, List.forall_mem_singleton]
  refine ⟨Json.isIntegral_ofText _, ?_⟩
  cases statement with
  | linePragma line =>
    refine Json.isIntegral_ofFields ?_
    rw [List.forall_mem_singleton]
    exact Json.isIntegral_ofNat line
  | _ => exact Json.isIntegral_ofText _

/-- A statement takes two levels. -/
theorem Statement.decode_encode {statement : Statement} (h : statement.HasWords) (levels : Nat) :
    Statement.decode (levels + 2) statement.encode = some statement := by
  rw [encode, decode, Json.tagged?_ofFields (by decide)]
  cases statement with
  | linePragma line =>
    have hrecord : Json.record? ["line"] (.ofFields [("line", .ofNat line)]) =
        some [some (.ofNat line)] := Json.record?_ofFields (by simp)
    rw [Json.ofFields] at hrecord
    simp only [Option.bind_eq_bind, Option.bind_some, kindName, value, ofParts?, Json.ofFields,
      hrecord, Json.required, Json.word?_ofNat h, Option.map_some]
  | _ => rfl

/-- The value of a method is integral. -/
theorem Method.isIntegral_encode (method : Method) : method.encode.IsIntegral := by
  refine Json.isIntegral_ofFields ?_
  rw [List.forall_mem_cons, List.forall_mem_singleton]
  exact ⟨Json.isIntegral_ofText _, Json.isIntegral_ofList fun s _ => s.isIntegral_encode⟩

/-- A method takes two levels more than its statements. -/
theorem Method.decode_encode {method : Method}
    (h : ∀ statement ∈ method.statements, statement.HasWords) (levels : Nat) :
    Method.decode (levels + 4) method.encode = some method := by
  have hrecord : Json.record? ["name", "statements"] method.encode =
      some [some (.ofText method.name), some (.ofList Statement.encode method.statements)] :=
    Json.record?_ofFields (by simp)
  have hstatements : Json.items? Statement.decode (levels + 3)
      (.ofList Statement.encode method.statements) = some method.statements :=
    Json.items?_ofList fun statement hs => Statement.decode_encode (h statement hs) levels
  rw [decode, hrecord]
  simp only [Json.required, Json.defaulted, hstatements, Option.bind_eq_bind, Option.bind_some]
  rfl

/-- The value of a type is integral. -/
theorem TypeDecl.isIntegral_encode (type : TypeDecl) : type.encode.IsIntegral := by
  refine Json.isIntegral_ofFields ?_
  rw [List.forall_mem_cons, List.forall_mem_cons, List.forall_mem_singleton]
  exact ⟨Json.isIntegral_ofText _, Json.isIntegral_ofOption fun s _ => Json.isIntegral_ofText s,
    Json.isIntegral_ofList fun method _ => method.isIntegral_encode⟩

/-- A type takes two levels more than its methods. -/
theorem TypeDecl.decode_encode {type : TypeDecl}
    (h : ∀ method ∈ type.methods, ∀ statement ∈ method.statements, statement.HasWords)
    (levels : Nat) : TypeDecl.decode (levels + 6) type.encode = some type := by
  have hrecord : Json.record? ["name", "base", "methods"] type.encode =
      some [some (.ofText type.name), some (.ofOption .ofText type.base),
        some (.ofList Method.encode type.methods)] :=
    Json.record?_ofFields (by simp)
  have hmethods : Json.items? Method.decode (levels + 5) (.ofList Method.encode type.methods) =
      some type.methods :=
    Json.items?_ofList fun method hm => Method.decode_encode (h method hm) levels
  rw [decode, hrecord]
  simp only [Json.required, Json.defaulted, Json.nullable_ofOption_ofText, hmethods,
    Option.bind_eq_bind, Option.bind_some]
  rfl

/-- The value of a unit is integral. -/
theorem SourceUnit.isIntegral_encode (unit : SourceUnit) : unit.encode.IsIntegral := by
  refine Json.isIntegral_ofFields ?_
  rw [List.forall_mem_cons, List.forall_mem_cons, List.forall_mem_singleton]
  exact ⟨Json.isIntegral_ofOption fun s _ => Json.isIntegral_ofText s,
    Json.isIntegral_ofList fun s _ => Json.isIntegral_ofText s,
    Json.isIntegral_ofList fun type _ => type.isIntegral_encode⟩

/-- A unit takes two levels more than its types, eight in all. -/
theorem SourceUnit.decode_encode {unit : SourceUnit} (h : unit.HasWords) (levels : Nat) :
    SourceUnit.decode (levels + 8) unit.encode = some unit := by
  have hrecord : Json.record? ["namespace", "imports", "types"] unit.encode =
      some [some (.ofOption .ofText unit.namespaceName), some (.ofList .ofText unit.imports),
        some (.ofList TypeDecl.encode unit.types)] :=
    Json.record?_ofFields (by simp)
  have himports : Json.items? (fun _ => Json.text?) (levels + 7) (.ofList .ofText unit.imports) =
      some unit.imports :=
    Json.items?_ofList fun name _ => rfl
  have htypes : Json.items? TypeDecl.decode (levels + 7) (.ofList TypeDecl.encode unit.types) =
      some unit.types :=
    Json.items?_ofList fun type ht => TypeDecl.decode_encode (h type ht) levels
  rw [decode, hrecord]
  simp only [Json.defaulted, Json.nullable_ofOption_ofText, himports, htypes,
    Option.bind_eq_bind, Option.bind_some]
  rfl

/-! ## Syntax trees -/

/-- The value of a span is integral. -/
theorem Span.isIntegral_encode (span : Span) : span.encode.IsIntegral := by
  refine Json.isIntegral_ofFields ?_
  rw [List.forall_mem_cons, List.forall_mem_singleton]
  exact ⟨Json.isIntegral_ofNat _, Json.isIntegral_ofNat _⟩

/-- A span takes one level. -/
theorem Span.decode_encode {span : Span} (h : span.HasWords) (levels : Nat) :
    Span.decode (levels + 1) span.encode = some span := by
  have hrecord : Json.record? ["start", "len"] span.encode =
      some [some (.ofNat span.start), some (.ofNat span.len)] :=
    Json.record?_ofFields (by simp)
  rw [decode, hrecord]
  simp only [Json.required, Json.word?_ofNat h.1, Json.word?_ofNat h.2, Option.bind_eq_bind,
    Option.bind_some]
  rfl

/-- The name of a kind of block is read back. -/
theorem BlockKind.ofName?_name (kind : BlockKind) : ofName? kind.name = some kind := by
  cases kind <;> rfl

namespace Block

mutual

/-- The value of a tree is integral. -/
theorem isIntegral_encode : (block : Block) → block.encode.IsIntegral
  | ⟨kind, span, content, children⟩ => by
    rw [encode]
    refine Json.isIntegral_ofFields ?_
    rw [List.forall_mem_cons, List.forall_mem_cons, List.forall_mem_cons,
      List.forall_mem_singleton]
    exact ⟨Json.isIntegral_ofText _, span.isIntegral_encode, Json.isIntegral_ofText _,
      .array (isIntegral_encodeAll children)⟩

/-- The values of some trees are integral. -/
theorem isIntegral_encodeAll :
    (blocks : List Block) → ∀ value ∈ encodeAll blocks, value.IsIntegral
  | [] => by
    intro value h
    cases h
  | block :: others => by
    rw [encodeAll, List.forall_mem_cons]
    exact ⟨isIntegral_encode block, isIntegral_encodeAll others⟩

end

mutual

/-- A tree takes as many levels as its value is deep: two for each node on the way down. -/
theorem decode_encode : (block : Block) → block.HasWords → (levels : Nat) →
    block.encode.depth ≤ levels → decode levels block.encode = some block
  | ⟨kind, span, content, children⟩, h, levels, hdepth => by
    simp only [HasWords, nodes_eq, List.forall_mem_cons] at h
    obtain ⟨hspan, hchildren⟩ := h
    rw [encode] at hdepth ⊢
    have hlist : (Json.array (encodeAll children)).depth ≤ levels - 1 := by
      refine Nat.le_sub_one_of_lt (Nat.lt_of_lt_of_le ?_ hdepth)
      exact Json.depth_lt_of_mem_fields "children" (by simp)
    rw [Json.depth_array] at hlist
    -- One level is for the node and one for the list of the nodes inside it.
    obtain ⟨levels, rfl⟩ := Nat.exists_eq_add_of_le' (show 2 ≤ levels by omega)
    have hrecord : Json.record? ["kind", "span", "content", "children"] (.ofFields
        [("kind", .ofText kind.name), ("span", span.encode), ("content", .ofText content),
          ("children", .array (encodeAll children))]) =
        some [some (.ofText kind.name), some span.encode, some (.ofText content),
          some (.array (encodeAll children))] :=
      Json.record?_ofFields (by simp)
    have hkind : (Json.variant? (levels + 1) (.ofText kind.name)).bind BlockKind.ofName? =
        some kind := kind.ofName?_name
    rw [decode, hrecord]
    simp only [Json.required, Json.defaulted, hkind, Span.decode_encode hspan,
      mapM_decode_encodeAll children hchildren levels (by omega), Option.bind_eq_bind,
      Option.bind_some]
    rfl

/-- Some trees take as many levels as the deepest of their values. -/
theorem mapM_decode_encodeAll : (blocks : List Block) →
    (∀ node ∈ nodesAll blocks, node.span.HasWords) → (levels : Nat) →
      Json.depthAll (encodeAll blocks) ≤ levels →
        (encodeAll blocks).mapM (decode levels) = some blocks
  | [], _, _, _ => rfl
  | block :: others, h, levels, hdepth => by
    rw [nodesAll_cons, List.forall_mem_append] at h
    obtain ⟨hblock, hothers⟩ := h
    rw [encodeAll, Json.depthAll] at hdepth
    rw [encodeAll, List.mapM_cons, decode_encode block hblock levels (by omega),
      mapM_decode_encodeAll others hothers levels (by omega)]
    rfl

end

end Block

/-! ## Descriptions and settings -/

/-- The value of a language is integral. -/
theorem Language.isIntegral_encode (language : Language) : language.encode.IsIntegral := by
  refine Json.isIntegral_ofFields ?_
  rw [List.forall_mem_cons, List.forall_mem_singleton]
  exact ⟨Json.isIntegral_ofText _, Json.isIntegral_ofText _⟩

/-- A language takes one level. -/
theorem Language.decode_encode (language : Language) (levels : Nat) :
    Language.decode (levels + 1) language.encode = some language := by
  have hrecord : Json.record? ["id", "name"] language.encode =
      some [some (.ofText language.id), some (.ofText language.name)] :=
    Json.record?_ofFields (by simp)
  rw [decode, hrecord]
  rfl

/-- The value of a descriptor is integral. -/
theorem EngineDescriptor.isIntegral_encode (descriptor : EngineDescriptor) :
    descriptor.encode.IsIntegral := by
  refine Json.isIntegral_ofFields ?_
  rw [List.forall_mem_cons, List.forall_mem_cons, List.forall_mem_singleton]
  exact ⟨Json.isIntegral_ofText _, Json.isIntegral_ofText _,
    Json.isIntegral_ofList fun language _ => language.isIntegral_encode⟩

/-- A descriptor takes three levels. -/
theorem EngineDescriptor.decode_encode (descriptor : EngineDescriptor) (levels : Nat) :
    EngineDescriptor.decode (levels + 3) descriptor.encode = some descriptor := by
  have hrecord : Json.record? ["id", "name", "supported_languages"] descriptor.encode =
      some [some (.ofText descriptor.id), some (.ofText descriptor.name),
        some (.ofList Language.encode descriptor.languages)] :=
    Json.record?_ofFields (by simp)
  have hlanguages : Json.items? Language.decode (levels + 2)
      (.ofList Language.encode descriptor.languages) = some descriptor.languages :=
    Json.items?_ofList fun language _ => language.decode_encode levels
  rw [decode, hrecord]
  simp only [Json.required, hlanguages, Option.bind_eq_bind, Option.bind_some]
  rfl

/-- The value of settings is integral. -/
theorem ControllerSettings.isIntegral_encode (settings : ControllerSettings) :
    settings.encode.IsIntegral := by
  refine Json.isIntegral_ofFields ?_
  rw [List.forall_mem_singleton]
  exact Json.isIntegral_ofNat _

/-- Settings take one level, and are kept if the interval fits. -/
theorem ControllerSettings.decode_encode {settings : ControllerSettings}
    (h : settings.debounce < Nat.pow 2 64) (levels : Nat) :
    ControllerSettings.decode (levels + 1) settings.encode = some settings := by
  have hrecord : Json.record? ["debounce-ms"] settings.encode =
      some [some (.ofNat (min settings.debounce (Nat.pow 2 64 - 1)))] :=
    Json.record?_ofFields (by simp)
  have hmin : min settings.debounce (Nat.pow 2 64 - 1) = settings.debounce :=
    Nat.min_eq_left (Nat.le_sub_one_of_lt h)
  rw [decode, hrecord, hmin]
  simp only [Json.defaulted, Json.word?_ofNat h, Option.bind_eq_bind, Option.bind_some]
  rfl

/-! ## Results -/

namespace GenerationResult

/-- The value of a result is integral. -/
theorem isIntegral_encode (result : GenerationResult) : result.encode.IsIntegral := by
  refine Json.isIntegral_ofFields ?_
  rw [List.forall_mem_cons, List.forall_mem_cons, List.forall_mem_singleton]
  exact ⟨result.code.isIntegral_encode, result.document.isIntegral_encode, .bool _⟩

/-- A result takes one level more than its parts, of which only the tree may need more than the
eight that a unit needs. -/
theorem decode_encode {result : GenerationResult} (h : result.HasWords) (levels : Nat)
    (hdepth : result.encode.depth ≤ levels + 9) :
    decode (levels + 9) result.encode = some result := by
  have hdocument : result.document.encode.depth < result.encode.depth :=
    Json.depth_lt_of_mem_fields "document" (by simp)
  have hrecord : Json.record? ["code", "document", "success"] result.encode =
      some [some result.code.encode, some result.document.encode, some (.bool result.success)] :=
    Json.record?_ofFields (by simp)
  rw [decode, hrecord]
  simp only [Json.required, SourceUnit.decode_encode h.1 levels,
    Block.decode_encode result.document h.2 (levels + 8) (by omega), Option.bind_eq_bind,
    Option.bind_some]
  rfl

/-- The value of an optional result is integral. -/
theorem isIntegral_encodeOption (result : Option GenerationResult) :
    (encodeOption result).IsIntegral :=
  Json.isIntegral_ofOption fun r _ => r.isIntegral_encode

/-- An optional result that can be written so that every reader takes it: its numbers are words, and
its value is not deeper than the levels that readers allow. -/
def IsPortable (result : Option GenerationResult) : Prop :=
  (∀ r ∈ result, r.HasWords) ∧ (encodeOption result).depth ≤ Json.maxLevels

/-- An optional result is decoded. -/
theorem decodeOption_encodeOption {result : Option GenerationResult} (h : IsPortable result) :
    decodeOption (encodeOption result) = some result := by
  cases result with
  | none => rfl
  | some r =>
    obtain ⟨hwords, hdepth⟩ := h
    have hr : decode Json.maxLevels r.encode = some r :=
      decode_encode (hwords r rfl) 118 hdepth
    exact congrArg (Option.map some) hr

/-- Nothing but no result is written as `null`. -/
theorem compact_encodeOption_eq_null_iff (result : Option GenerationResult) :
    Json.compact (encodeOption result) = "null" ↔ result = none := by
  constructor
  · intro h
    have hvalue : encodeOption result = .null := by
      have hread := congrArg Json.parse (h.trans (show "null" = Json.compact .null from rfl))
      rwa [Json.parse_compact (isIntegral_encodeOption result), Json.parse_compact .null,
        Option.some.injEq] at hread
    cases result with
    | none => rfl
    | some r => exact absurd hvalue (by simp [encodeOption, encode, Json.ofOption, Json.ofFields])
  · rintro rfl
    rfl

end GenerationResult

/-- All formats round-trip. An optional result whose numbers are words and that is not too deep is
read back, also by those who run an engine and read the bytes that it prints; it is written as
`null` exactly if there is none. The same holds for trees, and without a bound on the depth for
units, statements and descriptions, and for settings whose interval is a word. No two values of one
kind are written alike. -/
theorem formats_roundTrip :
    RoundTrips GenerationResult.encodeOption GenerationResult.decodeOption
      GenerationResult.IsPortable ∧
    (∀ result, GenerationResult.IsPortable result → CommandEngine.parseOutput
      (Json.compact (GenerationResult.encodeOption result)).toUTF8 = some result) ∧
    (∀ result, Json.compact (GenerationResult.encodeOption result) = "null" ↔ result = none) ∧
    RoundTrips SourceUnit.encode (SourceUnit.decode Json.maxLevels) SourceUnit.HasWords ∧
    RoundTrips Block.encode (Block.decode Json.maxLevels)
      (fun block => block.HasWords ∧ block.encode.depth ≤ Json.maxLevels) ∧
    RoundTrips Statement.encode (Statement.decode Json.maxLevels) Statement.HasWords ∧
    RoundTrips EngineDescriptor.encode (EngineDescriptor.decode Json.maxLevels) (fun _ => True) ∧
    RoundTrips Language.encode (Language.decode Json.maxLevels) (fun _ => True) ∧
    RoundTrips ControllerSettings.encode (ControllerSettings.decode Json.maxLevels)
      (fun settings => settings.debounce < Nat.pow 2 64) := by
  have hresult : RoundTrips GenerationResult.encodeOption GenerationResult.decodeOption
      GenerationResult.IsPortable :=
    Json.roundTrips_of_decode_encode GenerationResult.isIntegral_encodeOption
      fun _ h => GenerationResult.decodeOption_encodeOption h
  refine ⟨hresult, hresult.bytes, GenerationResult.compact_encodeOption_eq_null_iff,
    ?unit, ?block, ?statement, ?descriptor, ?language, ?settings⟩
  case unit =>
    exact Json.roundTrips_of_decode_encode SourceUnit.isIntegral_encode
      fun _ h => SourceUnit.decode_encode h 119
  case block =>
    exact Json.roundTrips_of_decode_encode Block.isIntegral_encode
      fun block h => Block.decode_encode block h.1 Json.maxLevels h.2
  case statement =>
    exact Json.roundTrips_of_decode_encode Statement.isIntegral_encode
      fun _ h => Statement.decode_encode h 125
  case descriptor =>
    exact Json.roundTrips_of_decode_encode EngineDescriptor.isIntegral_encode
      fun descriptor _ => descriptor.decode_encode 124
  case language =>
    exact Json.roundTrips_of_decode_encode Language.isIntegral_encode
      fun language _ => language.decode_encode 126
  case settings =>
    exact Json.roundTrips_of_decode_encode ControllerSettings.isIntegral_encode
      fun _ h => ControllerSettings.decode_encode h 126

/-- The result for a literal template is read back by those who run an engine that prints it. -/
theorem formats_roundTrip_literal :
    CommandEngine.parseOutput (Json.compact (GenerationResult.encodeOption
      (some (Literal.resultOf "\"ü\"\n" true)))).toUTF8 =
        some (some (Literal.resultOf "\"ü\"\n" true)) := by
  refine formats_roundTrip.2.1 _ ⟨fun r hr => ?_, by decide⟩
  rw [← Option.some.inj hr]
  decide

end TemplateInspector
