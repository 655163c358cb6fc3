import TemplateInspector.Emit.Layout
import TemplateInspector.Emit.Template

/-!
# The lines that a template writes

A template begins each line that it writes in a type, and ends each line that it writes around the
types. A type stands between the two: the line feed before its first line ends an empty line of the
layout, and the one behind its last line ends that line. So `Dialect.emit` writes exactly the lines
of `Dialect.unitLines`.
-/

namespace TemplateInspector.Dialect

/-! ## Loops -/

variable {α β : Type}

@[simp] theorem writeEach_nil (write : α → String) : writeEach [] write = "" := rfl

@[simp] theorem writeEach_cons (item : α) (items : List α) (write : α → String) :
    writeEach (item :: items) write = write item ++ writeEach items write := by
  simp [writeEach]

@[simp] theorem writeEach_append (items others : List α) (write : α → String) :
    writeEach (items ++ others) write = writeEach items write ++ writeEach others write := by
  simp [writeEach]

theorem writeEach_map (view : α → β) (items : List α) (write : β → String) :
    writeEach (items.map view) write = writeEach items fun item => write (view item) := by
  simp [writeEach, Function.comp_def]

/-- A loop over the parts of items is a loop within a loop. -/
theorem writeEach_flatMap (parts : α → List β) (items : List α) (write : β → String) :
    writeEach (items.flatMap parts) write =
      writeEach items fun item => writeEach (parts item) write := by
  induction items with
  | nil => rfl
  | cons item items ih => rw [List.flatMap_cons, writeEach_append, ih, writeEach_cons]

/-- A line feed behind lines that are begun ends the last one, and the line feed before the first
ends an empty line. -/
theorem writeEach_begun_append (ls : List String) :
    writeEach ls ("\n" ++ ·) ++ "\n" = writeEach ("" :: ls) (· ++ "\n") := by
  induction ls with
  | nil => rfl
  | cons line ls ih =>
    have hended : writeEach ("" :: ls) (· ++ "\n") = "\n" ++ writeEach ls (· ++ "\n") := by simp
    rw [writeEach_cons, String.append_assoc, ih, hended]
    simp [String.append_assoc]

/-! ## The levels of a template -/

/-- What is written for a method begins each of its lines. -/
theorem methodTemplate_eq (dialect : Dialect) (hasBase : Bool) (method : Method) :
    dialect.methodTemplate hasBase (dialect.methodView method) =
      writeEach (dialect.methodLines hasBase method) ("\n" ++ ·) := by
  rw [methodLines, writeEach_append, writeEach_append, writeEach_map, ← String.toList_inj]
  simp only [← String.append_assoc]
  unfold methodTemplate
  cases dialect <;> simp [methodView, methodOpening, methodClosing, bodyIndent]

/-- The lines that begin a type, after the first, which is empty. -/
def typeHeader (dialect : Dialect) (type : TypeDecl) : List String :=
  let name := typeName type.name
  let base := type.base.map typeName
  match dialect with
  | csharp => ["public class " ++ name ++ writeSome base (" : " ++ ·), "\x7b"]
  | python => ["", "class " ++ name ++ writeSome base (fun base => "(" ++ base ++ ")") ++ ":"]
  | rust => ["pub struct " ++ name ++ ";", "",
      "impl " ++ writeSome base (fun base => base ++ " for ") ++ name ++ " \x7b"]
  | typescript => ["export class " ++ name ++ writeSome base (" extends " ++ ·) ++ " \x7b"]

theorem typeOpening_eq_cons (dialect : Dialect) (type : TypeDecl) :
    dialect.typeOpening type = "" :: dialect.typeHeader type := by
  cases dialect <;> cases hbase : type.base <;>
    simp [typeOpening, typeHeader, hbase, writeSome, String.append_assoc]

/-- What is written for a type ends each of its lines. -/
theorem typeTemplate_eq (dialect : Dialect) (type : TypeDecl) :
    dialect.typeTemplate (dialect.typeView type) =
      writeEach (dialect.typeLines type) (· ++ "\n") := by
  have hmethods : writeEach (dialect.typeView type).methods
        (dialect.methodTemplate (dialect.typeView type).base.isSome) =
      writeEach (type.methods.flatMap (dialect.methodLines type.base.isSome)) ("\n" ++ ·) := by
    rw [writeEach_flatMap, typeView, writeEach_map]
    simp only [Option.isSome_map, methodTemplate_eq]
  rw [typeLines, typeOpening_eq_cons, List.cons_append, List.cons_append,
    ← writeEach_begun_append, writeEach_append, writeEach_append, ← hmethods, ← String.toList_inj]
  unfold typeTemplate
  cases dialect <;> simp [typeHeader, typeView, typeClosing]
  -- Python writes the placeholder before the methods, and the layout has it behind them.
  cases type.methods <;> simp

/-- What is written for a unit ends each of its lines. -/
theorem template_eq (dialect : Dialect) (unit : SourceUnit) :
    dialect.template (dialect.unitView unit) =
      writeEach (dialect.unitLines unit) (· ++ "\n") := by
  have htypes : writeEach (dialect.unitView unit).types dialect.typeTemplate =
      writeEach (unit.types.flatMap dialect.typeLines) (· ++ "\n") := by
    rw [writeEach_flatMap, unitView, writeEach_map]
    simp only [typeTemplate_eq]
  have hsemicolon : (";\n" : String) = ";" ++ "\n" := rfl
  rw [unitLines, writeEach_append, writeEach_append, ← htypes]
  unfold template
  cases dialect <;> cases hname : unit.namespaceName <;>
    simp [hsemicolon, preamble, heading, namespaceLine, unitView, hname, writeSome,
      String.append_assoc]

/-- The text of a unit is that of its lines. -/
theorem emit_eq_join (dialect : Dialect) (unit : SourceUnit) :
    dialect.emit unit = String.join ((dialect.unitLines unit).map (· ++ "\n")) :=
  dialect.template_eq unit

end TemplateInspector.Dialect
