import Mathlib
import CrudLayer.Proofs.Declarations
import CrudLayer.Proofs.StoredNames

namespace CrudLayer.Members

open Listing Naming

theorem filterMap_entity {α : Type*} {r : String → Option α} (hr : IsReader r) (ctx : Context) :
    (Entity.listing ctx).filterMap r =
      ([serialVersion, Entity.identity] ++ ctx.fields.map Entity.field ++
        allAccessors ctx).flatMap (·.filterMap r) := by
  have htable : r ("@Table(name = \"" ++ ctx.tableName ++ "\")") = none :=
    hr.annotation ("Table(name = \"" ++ ctx.tableName ++ "\")")
  have hhead : r ("public class " ++ ctx.typeName .entity ++ " implements Serializable" ++
      " \x7b") = none := by
    simpa only [String.append_assoc] using hr.head (ctx.typeName .entity)
  have hentity : r "@Entity" = none := hr.annotation "Entity"
  rw [Entity.listing, filterMap_file hr.toIsReader _ _ _ hr.package hr.imports,
    List.filterMap_append, List.filterMap_append,
    filterMap_documentation _ hr.comment_start hr.comment,
    filterMap_braced hr.toIsReader _ _ _ hhead (hr.close ""), List.filterMap_append,
    filterMap_apart hr.toIsReader]
  simp [hentity, htable, hr.blank]

theorem filterMap_transferObject {α : Type*} {r : String → Option α} (hr : IsReader r)
    (ctx : Context) :
    (TransferObject.listing ctx).filterMap r =
      ([serialVersion, TransferObject.fields ctx] ++ allAccessors ctx).flatMap
        (·.filterMap r) := by
  have hhead : r ("public class " ++ ctx.typeName .transferObject ++ " implements Serializable" ++
      " \x7b") = none := by
    simpa only [String.append_assoc] using hr.head (ctx.typeName .transferObject)
  rw [TransferObject.listing, filterMap_file hr.toIsReader _ _ _ hr.package hr.imports,
    List.filterMap_append, filterMap_documentation _ hr.comment_start hr.comment,
    filterMap_braced hr.toIsReader _ _ _ hhead (hr.close ""), List.filterMap_append,
    filterMap_apart hr.toIsReader]
  simp [hr.blank]

def ArePlainFields (fields : List Field) : Prop :=
  ∀ f ∈ fields, IsPlainWord f.name ∧ IsPlainWord f.accessor

/-- Nothing in an accessor is taken for a field. -/
theorem fieldNames_allAccessors (ctx : Context) :
    (allAccessors ctx).flatMap (·.filterMap field?) = [] := by
  apply List.flatMap_eq_nil_iff.mpr
  apply Entity.forall_mem_allAccessors
  · exact ⟨fieldNames_getter _ _ _, fieldNames_setter _ _ _⟩
  · exact fun f _ => ⟨fieldNames_getter _ _ _, fieldNames_setter _ _ _⟩

def signatures (f : Field) : List Signature :=
  [getterSignature f.type.javaType f.accessor, setterSignature f.type.javaType f.name f.accessor]

def allSignatures (fields : List Field) : List Signature :=
  [getterSignature "Long" "Id", setterSignature "Long" identityColumn "Id"] ++
    fields.flatMap signatures

theorem methods_allAccessors (ctx : Context) (h : ArePlainFields ctx.fields) :
    (allAccessors ctx).flatMap (·.filterMap method?) = allSignatures ctx.fields := by
  have hlong := isPlainWord_of_isIdentifier "Long" (by decide)
  have hid := isPlainWord_of_isIdentifier "Id" (by decide)
  have hname := isPlainWord_of_isIdentifier identityColumn (by decide)
  have hfield : ∀ f ∈ ctx.fields,
      (accessors f).flatMap (·.filterMap method?) = signatures f := by
    intro f hf
    have htype := isPlainWord_javaType f.type
    obtain ⟨hn, ha⟩ := h f hf
    simp [accessors, signatures, methods_getter _ f.name _ htype ha,
      methods_setter _ _ _ htype hn ha]
  have hfields : (ctx.fields.flatMap accessors).flatMap (·.filterMap method?) =
      ctx.fields.flatMap signatures := by
    rw [List.flatMap_assoc]
    exact List.flatMap_congr hfield
  rw [allAccessors, List.flatMap_append, hfields]
  simp [allSignatures, methods_getter _ identityColumn _ hlong hid,
    methods_setter _ _ _ hlong hname hid]

/-- The fields of an entity are the version, the identity and those of the columns. -/
theorem fieldNames_entity (ctx : Context) (h : ArePlainFields ctx.fields) :
    (Entity.listing ctx).filterMap field? =
      "serialVersionUID" :: identityColumn :: ctx.fields.map (·.name) := by
  have hfixed : [serialVersion, Entity.identity].flatMap (·.filterMap field?) =
      ["serialVersionUID", identityColumn] := by decide
  have hfields : (ctx.fields.map Entity.field).flatMap (·.filterMap field?) =
      ctx.fields.map (·.name) := by
    have hfield : ∀ f ∈ ctx.fields, (Entity.field f).filterMap field? = [f.name] := by
      intro f hf
      have hcolumn : field? ("@Column(name = \"" ++ f.columnName ++ "\")") = none :=
        isReader_field?.annotation ("Column(name = \"" ++ f.columnName ++ "\")")
      simp [Entity.field, hcolumn, field?_declaration _ _ (isPlainWord_javaType f.type) (h f hf).1]
    rw [List.flatMap_map, List.flatMap_congr hfield]
    exact List.flatMap_pure_eq_map _ _
  rw [filterMap_entity isReader_field?, List.flatMap_append, List.flatMap_append, hfixed, hfields,
    fieldNames_allAccessors]
  simp

/-- A transfer object has the same fields as the entity. -/
theorem fieldNames_transferObject (ctx : Context) (h : ArePlainFields ctx.fields) :
    (TransferObject.listing ctx).filterMap field? =
      "serialVersionUID" :: identityColumn :: ctx.fields.map (·.name) := by
  have hfixed : serialVersion.filterMap field? = ["serialVersionUID"] := by decide
  have hid : field? identity = some identityColumn := by decide
  have hfields : (ctx.fields.map fun f => declaration f.type.javaType f.name).filterMap field? =
      ctx.fields.map (·.name) := by
    rw [List.filterMap_map, ← List.filterMap_eq_map]
    apply List.filterMap_congr
    intro f hf
    exact field?_declaration _ _ (isPlainWord_javaType f.type) (h f hf).1
  rw [filterMap_transferObject isReader_field?, List.flatMap_append, fieldNames_allAccessors]
  simp [TransferObject.fields, hfixed, hid, hfields]

theorem methods_entity (ctx : Context) (h : ArePlainFields ctx.fields) :
    (Entity.listing ctx).filterMap method? = allSignatures ctx.fields := by
  have hfixed : [serialVersion, Entity.identity].flatMap (·.filterMap method?) = [] := by
    decide
  have hfields : (ctx.fields.map Entity.field).flatMap (·.filterMap method?) = [] := by
    apply List.flatMap_eq_nil_iff.mpr
    intro p hp
    obtain ⟨f, -, rfl⟩ := List.mem_map.mp hp
    have hcolumn : method? ("@Column(name = \"" ++ f.columnName ++ "\")") = none :=
      isReader_method?.annotation ("Column(name = \"" ++ f.columnName ++ "\")")
    simp [Entity.field, hcolumn, method?_declaration]
  rw [filterMap_entity isReader_method?, List.flatMap_append, List.flatMap_append, hfixed, hfields,
    methods_allAccessors ctx h]
  simp

theorem methods_transferObject (ctx : Context) (h : ArePlainFields ctx.fields) :
    (TransferObject.listing ctx).filterMap method? = allSignatures ctx.fields := by
  have hfixed : serialVersion.filterMap method? = [] := by decide
  have hfields : (TransferObject.fields ctx).filterMap method? = [] := by
    apply List.filterMap_eq_nil_iff.mpr
    intro l hl
    simp only [TransferObject.fields, List.mem_append, List.mem_singleton, List.mem_map] at hl
    rcases hl with rfl | ⟨f, -, rfl⟩
    · exact method?_declaration _ _
    · exact method?_declaration _ _
  rw [filterMap_transferObject isReader_method?, List.flatMap_append, methods_allAccessors ctx h]
  simp [hfixed, hfields]

theorem unbroken_transferObject (ctx : Context) (h : ctx.IsInert) :
    Unbroken (TransferObject.listing ctx) := by
  have hserial : Unbroken serialVersion := by simp [serialVersion]
  have hfields : Unbroken (TransferObject.fields ctx) := by
    intro l hl
    simp only [TransferObject.fields, List.mem_append, List.mem_singleton, List.mem_map] at hl
    rcases hl with rfl | ⟨f, hf, rfl⟩
    · decide
    · have hname := Entity.no_break_of_isInertText _ (h.field f hf).1
      simp [declaration, Entity.no_break_javaType, hname]
  have haccessors : ∀ p ∈ allAccessors ctx, Unbroken p := by
    apply Entity.forall_mem_allAccessors
    · exact Entity.unbroken_accessors _ _ _ (by decide) (by decide) (by decide)
    · intro f hf
      obtain ⟨hname, haccessor, -⟩ := h.field f hf
      exact Entity.unbroken_accessors _ _ _ (Entity.no_break_javaType f.type)
        (Entity.no_break_of_isInertText _ hname) (Entity.no_break_of_isInertText _ haccessor)
  have htype := Entity.no_break_typeName ctx h .transferObject
  have hentity := Entity.no_break_typeName ctx h .entity
  have hpackage := Entity.no_break_package ctx h .entity
  rw [TransferObject.listing, unbroken_file, unbroken_append, unbroken_documentation,
    unbroken_braced, unbroken_append, unbroken_apart]
  refine ⟨Entity.no_break_package ctx h .transferObject, by simp, ?_, by simp [htype], ⟨by simp,
    List.forall_mem_append.mpr ⟨?_, haccessors⟩⟩, by simp⟩
  · simp [link, tag, Context.qualifiedName, hpackage, hentity]
  · simp [hserial, hfields]

/-- The two kinds of class that hold a table's fields. -/
def holders : List ArtifactKind := [.entity, .transferObject]

theorem mem_holders_iff {k : ArtifactKind} : k ∈ holders ↔ k = .entity ∨ k = .transferObject := by
  simp [holders]

theorem lines_content (ctx : Context) (h : ctx.IsInert) (k : ArtifactKind) (hk : k ∈ holders) :
    lines (k.content ctx) = k.listing ctx := by
  rcases mem_holders_iff.mp hk with rfl | rfl
  · exact Entity.lines_content ctx h
  · apply lines_render _ (unbroken_transferObject ctx h)
    simp [TransferObject.listing, file]

/-- Both classes declare the version, the identity and then the fields, each by its name. -/
theorem fieldNames_content (ctx : Context) (h : ctx.IsInert) (hf : ArePlainFields ctx.fields)
    (k : ArtifactKind) (hk : k ∈ holders) :
    fieldNames (k.content ctx) =
      "serialVersionUID" :: identityColumn :: ctx.fields.map (·.name) := by
  rw [fieldNames, lines_content ctx h k hk]
  rcases mem_holders_iff.mp hk with rfl | rfl
  · exact fieldNames_entity ctx hf
  · exact fieldNames_transferObject ctx hf

/-- The methods of both classes are the accessors of the identity and of the fields. -/
theorem methods_content (ctx : Context) (h : ctx.IsInert) (hf : ArePlainFields ctx.fields)
    (k : ArtifactKind) (hk : k ∈ holders) :
    methods (k.content ctx) = allSignatures ctx.fields := by
  rw [methods, lines_content ctx h k hk]
  rcases mem_holders_iff.mp hk with rfl | rfl
  · exact methods_entity ctx hf
  · exact methods_transferObject ctx hf

/-- The fields of an accepted table have words for names. -/
theorem arePlainFields_ofTable (t : Table) (ht : t.checkNames = .ok ()) :
    ArePlainFields t.fields := by
  intro f hf
  obtain ⟨col, hcol, rfl⟩ := List.mem_map.mp hf
  have hid := t.isIdentifier_fieldName ht col hcol
  refine ⟨isPlainWord_of_isIdentifier _ hid, ?_, ?_⟩
  · have hplain := arePlain_capital _ (t.arePlain_fieldName ht col hcol)
    simpa [Field.ofColumn, capitalize] using hplain
  · obtain ⟨c, cs, hcs⟩ := exists_cons_of_isIdentifier _ hid
    have hupper := Text.upper_ne_nil c
    intro hempty
    have hlist := congrArg String.toList hempty
    simp [Field.ofColumn, capitalize, hcs, capital, hupper] at hlist

end CrudLayer.Members
