import Mathlib
import CrudLayer.Proofs.CodeWords

namespace CrudLayer

open Listing

def formCharacters (k : ArtifactKind) :
    { css : List (List Char) // characters (k.listing (Context.form [])) = css } := by
  have hfields : (Context.form []).fields = [] := rfl
  have htable : (Context.form []).tableName.toList = ['τ'] := toList_fixed rfl
  have hbase : (Context.form []).basePackage.toList = ['π'] := toList_fixed rfl
  cases k
  all_goals
    constructor
    case property =>
      apply Eq.trans
      · -- All that the file is put together from is written out, down to names and fixed texts.
        delta ArtifactKind.listing Entity.listing TransferObject.listing Service.interfaceListing
          Service.implementationListing Resource.listing Repository.listing Mapper.listing
          Entity.identity TransferObject.fields Members.allAccessors Members.serialVersion
          Members.identity Members.declaration Members.getter Members.setter identityColumn
          Mapper.methods Service.constructor Service.method ServiceOperation.all
          ServiceOperation.signature ServiceOperation.description ServiceOperation.annotations
          ServiceOperation.implementation ServiceOperation.stored ServiceOperation.logged
          ServiceOperation.result ServiceOperation.name ServiceOperation.parameters Signature.text
          Resource.imports Resource.constructor Resource.create Resource.update
          Resource.partialUpdate Resource.getAll Resource.getOne Resource.delete Resource.logged
          Resource.updateParameters Resource.updateDocumentation Resource.failureDocumentation
          Resource.alert Resource.dtoIdentity Resource.dtoResponse Resource.dtoParameter
          Resource.refusals Resource.refusal IdentityGuard.onCreate IdentityGuard.onUpdate
          IdentityGuard.condition IdentityGuard.message IdentityGuard.key
        simp (disch := with_reducible rfl) only [characters_file, characters_append,
          characters_cons, characters_nil, characters_documentation, characters_braced,
          characters_parenthesized, characters_continued, characters_apart, characters_indented,
          List.map_append, List.map_cons, List.map_nil, List.flatMap_cons, List.flatMap_nil,
          ↓String.toList_append,
          hfields, htable, hbase, Context.toList_entityVariable_form, Context.toList_typeName_form,
          Context.toList_package_form, Context.qualifiedName, Context.dtoVariable,
          Context.serviceVariable, Context.repositoryVariable, Context.mapperVariable,
          Context.apiPath, ArtifactKind.suffix, ArtifactKind.layer, String.intercalate_cons_cons,
          String.intercalate_singleton, link, code, tag, empty, toList_fixed]
        rfl
      · rfl

def memberCharacters (k : ArtifactKind) (type : SemanticType) :
    { css : List (List Char) // characters (k.members (Field.form type)) = css } := by
  have hname : (Field.form type).name.toList = ['φ'] := toList_fixed rfl
  have haccessor : (Field.form type).accessor.toList = ['Φ'] := toList_fixed rfl
  have hcolumn : (Field.form type).columnName.toList = ['χ'] := toList_fixed rfl
  have htype : (Field.form type).type = type := rfl
  cases k <;> cases type
  all_goals
    constructor
    case property =>
      apply Eq.trans
      · delta ArtifactKind.members Entity.field Members.accessors Members.declaration
          Members.getter Members.setter SemanticType.javaType
        simp (disch := with_reducible rfl) only [List.flatten_cons, List.flatten_nil,
          characters_append, characters_cons, characters_nil, characters_braced,
          ↓String.toList_append, hname, haccessor, hcolumn, htype, toList_fixed]
        rfl
      · rfl

/-- The characters of each form are those that are put down. -/
theorem characters_form (k : ArtifactKind) :
    characters (k.listing (Context.form [])) = (formCharacters k).val := (formCharacters k).property

theorem characters_members (k : ArtifactKind) (type : SemanticType) :
    characters (k.members (Field.form type)) = (memberCharacters k type).val :=
  (memberCharacters k type).property

end CrudLayer
