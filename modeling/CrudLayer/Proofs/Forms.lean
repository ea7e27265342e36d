import Mathlib
import CrudLayer.Proofs.Filling

namespace CrudLayer

def Context.bare (ctx : Context) : Context := { ctx with fields := [] }

def ArtifactKind.members (k : ArtifactKind) (f : Field) : Listing :=
  match k with
  | entity => Entity.field f ++ (Members.accessors f).flatten
  | transferObject =>
    [Members.declaration f.type.javaType f.name] ++ (Members.accessors f).flatten
  | _ => []

namespace Filling

open Listing

namespace IsSafe

variable {σ : Filling} (h : σ.IsSafe)

include h in
/-- The entity without fields is its form filled in. -/
theorem map_fill_entity :
    (Entity.listing (Context.form [])).map σ.fill = Entity.listing σ.context.bare := by
  have hform : (Context.form []).fields = [] := rfl
  have hbare : σ.context.bare.fields = [] := rfl
  simp (disch := first | with_reducible rfl | decide) only [Entity.listing, Members.allAccessors,
    Members.getter, Members.setter, Members.serialVersion, Members.identity, Members.declaration,
    Entity.identity, identityColumn, map_fill_file, List.map_append, List.map_cons, List.map_nil,
    h.map_fill_documentation, h.map_fill_braced, map_fill_apart, ↓fill_append, fill_package,
    fill_typeName, fill_tableName, fill_fixed, hform, hbare, List.flatMap_nil]
  rfl

include h in
theorem map_fill_transferObject :
    (TransferObject.listing (Context.form [])).map σ.fill =
      TransferObject.listing σ.context.bare := by
  have hform : (Context.form []).fields = [] := rfl
  have hbare : σ.context.bare.fields = [] := rfl
  simp (disch := first | with_reducible rfl | decide) only [TransferObject.listing,
    TransferObject.fields, Members.allAccessors, Members.getter, Members.setter,
    Members.serialVersion, Members.identity, Members.declaration, identityColumn, map_fill_file,
    List.map_append, List.map_cons, List.map_nil, h.map_fill_documentation, h.map_fill_braced,
    map_fill_apart, ↓fill_append, fill_package, fill_typeName, fill_qualifiedName, fill_fixed, link,
    tag, hform, hbare, List.flatMap_nil]
  rfl

end IsSafe

section Parts

variable (σ : Filling) (types : List SemanticType)

theorem map_fill_description (o : ServiceOperation) :
    (o.description (Context.form types)).map σ.fill = o.description σ.context := by
  cases o <;>
    simp (disch := first | with_reducible rfl | decide) only [ServiceOperation.description,
      List.map_cons, List.map_nil, ↓fill_append, fill_entityVariable, fill_dtoVariable, fill_fixed]

theorem fill_signature (o : ServiceOperation) :
    σ.fill (o.signature (Context.form types)).text = (o.signature σ.context).text := by
  cases o <;>
    simp (disch := first | with_reducible rfl | decide) only [ServiceOperation.signature,
      ServiceOperation.result, ServiceOperation.name, ServiceOperation.parameters, Signature.text,
      List.map_cons, List.map_nil, String.intercalate_singleton, ↓fill_append, fill_typeName,
      fill_dtoVariable, fill_fixed]

theorem map_fill_annotations (o : ServiceOperation) :
    o.annotations.map σ.fill = o.annotations := by
  cases o <;>
    simp (disch := first | with_reducible rfl | decide) only [ServiceOperation.annotations,
      List.map_cons, List.map_nil, fill_fixed]

theorem fill_alert (action identity : String) :
    σ.fill (Resource.alert action identity) =
      Resource.alert (σ.fill action) (σ.fill identity) := by
  delta Resource.alert
  simp (disch := first | with_reducible rfl | decide) only [↓fill_append, fill_fixed]

theorem fill_dtoIdentity :
    σ.fill (Resource.dtoIdentity (Context.form types)) = Resource.dtoIdentity σ.context := by
  delta Resource.dtoIdentity
  simp (disch := first | with_reducible rfl | decide) only [↓fill_append,
    fill_dtoVariable, fill_fixed]

theorem fill_dtoResponse :
    σ.fill (Resource.dtoResponse (Context.form types)) = Resource.dtoResponse σ.context := by
  delta Resource.dtoResponse
  simp (disch := first | with_reducible rfl | decide) only [↓fill_append,
    fill_typeName, fill_fixed]

theorem fill_dtoParameter :
    σ.fill (Resource.dtoParameter (Context.form types)) = Resource.dtoParameter σ.context := by
  delta Resource.dtoParameter
  simp (disch := first | with_reducible rfl | decide) only [↓fill_append,
    fill_typeName, fill_dtoVariable, fill_fixed]

theorem map_fill_updateParameters :
    (Resource.updateParameters (Context.form types)).map σ.fill =
      Resource.updateParameters σ.context := by
  delta Resource.updateParameters
  simp (disch := first | with_reducible rfl | decide) only [List.map_cons, List.map_nil,
    fill_dtoParameter, fill_fixed]

theorem map_fill_updateDocumentation :
    (Resource.updateDocumentation (Context.form types)).map σ.fill =
      Resource.updateDocumentation σ.context := by
  delta Resource.updateDocumentation
  simp (disch := first | with_reducible rfl | decide) only [List.map_cons, List.map_nil,
    ↓fill_append, fill_dtoVariable, fill_fixed, code, link, tag]

theorem fill_failureDocumentation :
    σ.fill (Resource.failureDocumentation (Context.form types)) =
      Resource.failureDocumentation σ.context := by
  delta Resource.failureDocumentation
  simp (disch := first | with_reducible rfl | decide) only [↓fill_append, fill_dtoVariable,
    fill_fixed, code, tag]

theorem map_fill_resourceImports :
    (Resource.imports (Context.form types)).map σ.fill = Resource.imports σ.context := by
  simp (disch := first | with_reducible rfl | decide) only [Resource.imports, List.map_cons,
    List.map_nil, ↓fill_append, fill_qualifiedName, fill_basePackage, fill_fixed]

/-- A guard asks the same of other names. -/
theorem fill_condition (g : IdentityGuard) :
    σ.fill (g.condition (Context.form types)) = g.condition σ.context := by
  cases g <;>
  · delta IdentityGuard.condition
    simp (disch := first | with_reducible rfl | decide) only [↓fill_append, fill_dtoVariable,
      fill_repositoryVariable, fill_fixed]

theorem fill_message (g : IdentityGuard) :
    σ.fill (g.message (Context.form types)) = g.message σ.context := by
  cases g <;>
  · delta IdentityGuard.message
    simp (disch := first | with_reducible rfl | decide) only [↓fill_append, fill_entityVariable,
      fill_fixed]

theorem fill_key (g : IdentityGuard) : σ.fill g.key = g.key := by
  cases g <;> exact σ.fill_fixed _ rfl (by decide)

theorem fill_javaType (s : SemanticType) : σ.fill s.javaType = s.javaType := by
  cases s <;> exact σ.fill_fixed _ rfl (by decide)

theorem fill_declaration (s : SemanticType) :
    σ.fill (Members.declaration s.javaType (Field.form s).name) =
      Members.declaration s.javaType σ.field.name := by
  simp (disch := first | with_reducible rfl | decide) only [Members.declaration, ↓fill_append,
    fill_javaType, fill_fieldName, fill_fixed]

end Parts

namespace IsSafe

variable {σ : Filling} (h : σ.IsSafe) (types : List SemanticType)

include h in
theorem map_fill_interface :
    (Service.interfaceListing (Context.form types)).map σ.fill =
      Service.interfaceListing σ.context := by
  simp (disch := first | with_reducible rfl | decide) only [Service.interfaceListing,
    ServiceOperation.all, map_fill_file, List.map_append, List.map_cons, List.map_nil,
    h.map_fill_documentation, h.map_fill_braced, map_fill_apart, map_fill_description,
    fill_signature, ↓fill_append, fill_package, fill_typeName, fill_qualifiedName, fill_fixed,
    link, tag]

include h in
theorem map_fill_implementation (o : ServiceOperation) :
    (o.implementation (Context.form types)).map σ.fill = o.implementation σ.context := by
  cases o <;>
    simp (disch := first | with_reducible rfl | decide) only [ServiceOperation.implementation,
      ServiceOperation.logged, ServiceOperation.stored, List.map_append, List.map_cons,
      List.map_nil, h.map_fill_continued, h.map_fill_braced, String.intercalate_cons_cons,
      String.intercalate_singleton, ↓fill_append, fill_typeName, fill_entityVariable,
      fill_dtoVariable, fill_repositoryVariable, fill_mapperVariable, fill_fixed, empty]

include h in
theorem map_fill_method (o : ServiceOperation) :
    (Service.method (Context.form types) o).map σ.fill = Service.method σ.context o := by
  simp (disch := first | with_reducible rfl | decide) only [Service.method, List.map_append,
    map_fill_annotations, h.map_fill_braced, h.map_fill_implementation, fill_signature,
    ↓fill_append, fill_fixed]

include h in
theorem map_fill_implementationListing :
    (Service.implementationListing (Context.form types)).map σ.fill =
      Service.implementationListing σ.context := by
  simp (disch := first | with_reducible rfl | decide) only [Service.implementationListing,
    Service.constructor, ServiceOperation.all, map_fill_file, List.map_append, List.map_cons,
    List.map_nil, h.map_fill_documentation, h.map_fill_braced, map_fill_apart, h.map_fill_method,
    ↓fill_append, fill_package, fill_typeName, fill_qualifiedName, fill_repositoryVariable,
    fill_mapperVariable, fill_fixed, link, tag]

include h in
theorem map_fill_repository :
    (Repository.listing (Context.form types)).map σ.fill = Repository.listing σ.context := by
  simp (disch := first | with_reducible rfl | decide) only [Repository.listing, map_fill_file,
    List.map_append, List.map_cons, List.map_nil, h.map_fill_documentation, ↓fill_append,
    fill_package, fill_typeName, fill_qualifiedName, fill_fixed, empty]

include h in
theorem map_fill_mapper :
    (Mapper.listing (Context.form types)).map σ.fill = Mapper.listing σ.context := by
  simp (disch := first | with_reducible rfl | decide) only [Mapper.listing, Mapper.methods,
    map_fill_file, List.map_append, List.map_cons, List.map_nil, h.map_fill_documentation,
    h.map_fill_braced, map_fill_apart, ↓fill_append, fill_package, fill_typeName,
    fill_qualifiedName, fill_fixed, link, tag]

include h in
theorem map_fill_refusals (guards : List IdentityGuard) :
    (Resource.refusals (Context.form types) guards).map σ.fill =
      Resource.refusals σ.context guards := by
  have hguard : ∀ g : IdentityGuard,
      (Resource.refusal (Context.form types) g).map σ.fill = Resource.refusal σ.context g := by
    intro g
    delta Resource.refusal
    simp (disch := first | with_reducible rfl | decide) only [fill_condition, fill_message,
      fill_key, h.map_fill_braced, List.map_cons, List.map_nil, ↓fill_append, fill_fixed]
  rw [Resource.refusals, List.map_flatMap, List.flatMap_congr fun g _ => hguard g]
  rfl

include h in
theorem map_fill_resource :
    (Resource.listing (Context.form types)).map σ.fill = Resource.listing σ.context := by
  simp (disch := first | with_reducible rfl | decide) only [Resource.listing, Resource.constructor,
    Resource.create, Resource.update, Resource.partialUpdate, Resource.getAll, Resource.getOne,
    Resource.delete, Resource.logged, map_fill_file, map_fill_resourceImports, List.map_append,
    List.map_cons, List.map_nil, h.map_fill_documentation, h.map_fill_braced,
    h.map_fill_parenthesized, h.map_fill_continued, h.map_fill_indented, h.map_fill_refusals,
    map_fill_apart, map_fill_updateParameters, map_fill_updateDocumentation,
    fill_failureDocumentation, fill_alert, fill_dtoIdentity, fill_dtoResponse, fill_dtoParameter,
    String.intercalate_cons_cons, String.intercalate_singleton, ↓fill_append, fill_package,
    fill_typeName, fill_qualifiedName, fill_entityVariable, fill_dtoVariable, fill_serviceVariable,
    fill_repositoryVariable, fill_apiPath, fill_fixed, link, code, tag, empty]

include h in
/-- The form of a file of any kind, filled in, is the file. -/
theorem map_fill_listing (k : ArtifactKind) :
    (k.listing (Context.form [])).map σ.fill = k.listing σ.context.bare := by
  cases k
  case entity => exact h.map_fill_entity
  case transferObject => exact h.map_fill_transferObject
  case serviceInterface => exact h.map_fill_interface []
  case serviceImplementation => exact h.map_fill_implementationListing []
  case resourceHandler => exact h.map_fill_resource []
  case repository => exact h.map_fill_repository []
  case mapper => exact h.map_fill_mapper []

include h in
theorem map_fill_accessors :
    (Members.accessors (Field.form σ.field.type)).flatten.map σ.fill =
      (Members.accessors σ.field).flatten := by
  have htype : (Field.form σ.field.type).type = σ.field.type := rfl
  simp (disch := first | with_reducible rfl | decide) only [Members.accessors, Members.getter,
    Members.setter, htype, List.flatten_cons, List.flatten_nil, List.map_append, List.map_cons,
    List.map_nil, h.map_fill_braced, ↓fill_append, fill_javaType, fill_fieldName, fill_accessor,
    fill_fixed]

include h in
/-- What a file has for a field is its form with the field filled in. -/
theorem map_fill_members (k : ArtifactKind) :
    (k.members (Field.form σ.field.type)).map σ.fill = k.members σ.field := by
  have htype : (Field.form σ.field.type).type = σ.field.type := rfl
  have hcolumn : σ.fill ("@Column(name = \"" ++ (Field.form σ.field.type).columnName ++ "\")") =
      "@Column(name = \"" ++ σ.field.columnName ++ "\")" := by
    simp (disch := first | with_reducible rfl | decide) only [↓fill_append, fill_columnName,
      fill_fixed]
  cases k
  case entity =>
    simp only [ArtifactKind.members, Entity.field, htype, List.map_append, List.map_cons,
      List.map_nil, h.map_fill_accessors, fill_declaration, hcolumn]
  case transferObject =>
    simp only [ArtifactKind.members, htype, List.map_append, List.map_cons, List.map_nil,
      h.map_fill_accessors, fill_declaration]
  all_goals rfl

end IsSafe
end Filling
end CrudLayer
