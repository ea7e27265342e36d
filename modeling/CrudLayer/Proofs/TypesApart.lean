import Mathlib
import CrudLayer.Proofs.TypeNames

namespace CrudLayer

open Listing

namespace ArtifactKind

/-- No two kinds have types of one name. -/
theorem typeName_injective (entity : String) : Function.Injective (typeName · entity) := by
  intro j₁ j₂ h
  have hsuffix : j₁.suffix = j₂.suffix := by
    simp only [typeName, ← String.toList_inj, String.toList_append,
      List.append_cancel_left_eq] at h
    exact String.toList_inj.mp h
  revert hsuffix
  cases j₁ <;> cases j₂ <;> decide

theorem nodup_cons_dependencies (k : ArtifactKind) : (k :: k.dependencies).Nodup := by
  cases k <;> decide

theorem map_toList_importedForeignTypes (k : ArtifactKind) :
    k.importedForeignTypes.map String.toList =
      (k.importCharacters.val.map lastPart).filter (· ≠ ['*']) := by
  have hchars : ((k.otherImports "").map simpleName).map String.toList =
      (characters (k.otherImports "")).map lastPart := by
    simp only [characters, List.map_map]
    exact List.map_congr_left fun i _ => String.toList_ofList
  have hstar : ∀ n : String, decide (n.toList ≠ ['*']) = decide (n ≠ "*") := by
    intro n
    have hlist : ("*" : String).toList = ['*'] := toList_fixed rfl
    rw [← hlist, decide_eq_decide]
    exact not_congr String.toList_inj
  rw [← k.characters_otherImports, ← hchars, List.filter_map]
  simp only [Function.comp_def, hstar]
  rfl

theorem nodup_importedForeignTypes (k : ArtifactKind) : k.importedForeignTypes.Nodup := by
  apply List.Nodup.of_map String.toList
  rw [map_toList_importedForeignTypes]
  cases k <;> decide

theorem isFixedType_importedForeignTypes (k : ArtifactKind) :
    ∀ n ∈ k.importedForeignTypes, isFixedType k n.toList = true := by
  have hall : (k.importedForeignTypes.map String.toList).all (isFixedType k) = true := by
    rw [map_toList_importedForeignTypes]
    cases k <;> decide
  exact fun n hn => List.all_eq_true.mp hall n.toList (List.mem_map_of_mem hn)

theorem mem_importedForeignTypes_repository :
    "JpaRepository" ∈ repository.importedForeignTypes := by
  decide

/-- Without fields the types do not matter, and the form is known character by character. -/
theorem foreignTypes_of_no_fields (k : ArtifactKind) (types : List SemanticType)
    (hk : k ∉ Members.holders) :
    k.foreignTypes types =
      (((((declarationLines (formCharacters k).val).flatMap lineWords).filter
        beginsWithCapital).map String.ofList).filter (· ∉ fileConstants)) := by
  have hform : k.listing (Context.form types) = k.listing (Context.form []) :=
    (k.listing_bare (Context.form types) hk).symm
  rw [foreignTypes, hform, fileWords, ← characters_form]

theorem mem_foreignTypes_repository (types : List SemanticType) :
    "JpaRepository" ∈ repository.foreignTypes types := by
  rw [foreignTypes_of_no_fields _ types (by decide)]
  decide

/-- The package stands in one import only, before the name. -/
theorem map_simpleName_otherImports (k : ArtifactKind) (basePackage : String) :
    (k.otherImports basePackage).map simpleName = (k.otherImports "").map simpleName := by
  have hexception (package : String) :
      simpleName (package ++ ".web.rest.errors.BadRequestAlertException") =
        "BadRequestAlertException" := by
    have hparts : (".web.rest.errors.BadRequestAlertException" : String) =
        ".web.rest.errors" ++ "." ++ "BadRequestAlertException" := by decide
    rw [hparts, ← String.append_assoc, ← String.append_assoc]
    exact simpleName_qualified _ _ (by decide)
  cases k
  case resourceHandler =>
    exact congrArg₂ List.cons ((hexception basePackage).trans (hexception "").symm) rfl
  all_goals rfl

/-- None of a list of generated types has the name of a fixed one, if the entity has not, and the
repository is not that of `Jpa`. -/
theorem forall_typeName_not_mem_iff (k : ArtifactKind) (names : List String)
    (hnames : ∀ n ∈ names, isFixedType k n.toList = true)
    (hjpa : k = .repository → "JpaRepository" ∈ names) (js : List ArtifactKind)
    (hjs : k = .repository → .repository ∈ js) (name : String) (hname : name ≠ "") :
    (∀ j ∈ js, j.typeName name ∉ names) ↔
      (.entity ∈ js → name ∉ names) ∧ (k = .repository → name ≠ "Jpa") := by
  have hentity : entity.typeName name = name := String.append_empty
  constructor
  · intro hall
    refine ⟨fun hmem => hentity ▸ hall .entity hmem, fun hk hjpaName => ?_⟩
    apply hall .repository (hjs hk)
    rw [hjpaName]
    exact hjpa hk
  · -- Only the entity has a name without an end of its own.
    rintro ⟨hbare, hrepository⟩ j hj
    by_cases hje : j = .entity
    · rw [hje, hentity]
      exact hbare (hje ▸ hj)
    · rw [typeName_mem_iff k names hnames name hname j hje]
      rintro ⟨⟨hk, -, hjpaName⟩, -⟩
      exact hrepository hk hjpaName

end ArtifactKind

section Accepted

variable (t : Table) (c : Config) (ht : t.checkNames = .ok ())
  (hc : Config.checkPackage c.basePackage = .ok ()) (k : ArtifactKind)

include ht in
theorem arePlain_typeName : Naming.ArePlain ((Context.ofTable t c).typeName k).toList := by
  have hentity : Naming.ArePlain t.entityName.toList :=
    Naming.arePlain_of_isIdentifier _ (t.isIdentifier_entityName ht)
  have hsuffix : k.suffix.toList.all Naming.continuesIdentifier = true := by
    cases k <;> decide
  have hchars : ((Context.ofTable t c).typeName k).toList =
      t.entityName.toList ++ k.suffix.toList := String.toList_append
  rw [hchars]
  exact List.forall_mem_append.mpr ⟨hentity, List.all_eq_true.mp hsuffix⟩

include ht hc in
/-- The names that the text of a file brings in: those of generated types, then the others. -/
theorem importedTypes_content :
    importedTypes (k.content (Context.ofTable t c)) =
      k.dependencies.map (Context.ofTable t c).typeName ++ k.importedForeignTypes := by
  have hplain := arePlain_typeName t c ht
  have hgenerated : (k.dependencies.map (Context.ofTable t c).qualifiedName).map simpleName =
      k.dependencies.map (Context.ofTable t c).typeName := by
    rw [List.map_map]
    refine List.map_congr_left fun j _ => ?_
    exact simpleName_qualified _ _ ((hplain j).not_mem '.' (by decide))
  -- A star imports no type by name, and no generated type is called so.
  have hstar : ∀ n ∈ k.dependencies.map (Context.ofTable t c).typeName,
      decide (n ≠ "*") = true := by
    intro n hn
    obtain ⟨j, -, rfl⟩ := List.mem_map.mp hn
    have hnone := (hplain j).not_mem '*' (by decide)
    rw [decide_eq_true_eq]
    intro heq
    rw [heq] at hnone
    exact hnone (by decide)
  rw [importedTypes, imports_content t c ht hc k, List.map_append, hgenerated,
    k.map_simpleName_otherImports, List.filter_append, List.filter_eq_self.mpr hstar]
  rfl

include ht hc in
/-- What a file declares and imports has different names unless the entity's name is in the way. -/
theorem nodup_declared_importedTypes_iff :
    (declared (k.content (Context.ofTable t c)) ++
      importedTypes (k.content (Context.ofTable t c))).Nodup ↔
      (.entity ∈ k :: k.dependencies → t.entityName ∉ k.importedForeignTypes) ∧
        (k = .repository → t.entityName ≠ "Jpa") := by
  have hname : t.entityName ≠ "" :=
    (Members.isPlainWord_of_isIdentifier _ (t.isIdentifier_entityName ht)).ne_empty
  have hgenerated : ((k :: k.dependencies).map (Context.ofTable t c).typeName).Nodup :=
    k.nodup_cons_dependencies.map (ArtifactKind.typeName_injective t.entityName)
  have htexts : declared (k.content (Context.ofTable t c)) ++
      importedTypes (k.content (Context.ofTable t c)) =
        (k :: k.dependencies).map (Context.ofTable t c).typeName ++ k.importedForeignTypes := by
    rw [declared_content t c ht hc k, importedTypes_content t c ht hc k, List.map_cons]
    rfl
  have hapart : ((k :: k.dependencies).map (Context.ofTable t c).typeName ++
      k.importedForeignTypes).Nodup ↔
        ∀ j ∈ k :: k.dependencies, j.typeName t.entityName ∉ k.importedForeignTypes := by
    -- The generated names differ among themselves and so do the others, so one of each has to meet.
    rw [List.nodup_append']
    simp only [hgenerated, k.nodup_importedForeignTypes, true_and]
    exact List.forall_mem_map
  rw [htexts, hapart]
  apply k.forall_typeName_not_mem_iff _ k.isFixedType_importedForeignTypes _ _ _ _ hname
  · rintro rfl
    exact ArtifactKind.mem_importedForeignTypes_repository
  · rintro rfl
    exact List.mem_cons_self

end Accepted

/-- A file declares the type of its kind and imports generated types and others. Their names differ,
and no generated type has the name of one from elsewhere that is used in the file, except where the
table's entity is called as one of those from elsewhere is, or `Jpa`. The types from elsewhere that
count as used are words of the file's code, and besides them only generated types, constants and
fields have names there that begin with a capital. -/
theorem types_apart_iff (t : Table) (package : String) (path : Path) (c : Config)
    (ht : t.checkNames = .ok ()) (hc : Config.validate package path = .ok c) (k : ArtifactKind) :
    declared (k.content (Context.ofTable t c)) = [(Context.ofTable t c).typeName k] ∧
    importedTypes (k.content (Context.ofTable t c)) =
      k.dependencies.map (Context.ofTable t c).typeName ++ k.importedForeignTypes ∧
    ((declared (k.content (Context.ofTable t c)) ++
        importedTypes (k.content (Context.ofTable t c))).Nodup ↔
      (.entity ∈ k :: k.dependencies → t.entityName ∉ k.importedForeignTypes) ∧
        (k = .repository → t.entityName ≠ "Jpa")) ∧
    ((∀ j, (Context.ofTable t c).typeName j ∉ k.foreignTypes t.fieldTypes) ↔
      t.entityName ∉ k.foreignTypes t.fieldTypes ∧ (k = .repository → t.entityName ≠ "Jpa")) ∧
    (∀ n ∈ k.foreignTypes t.fieldTypes, n ∈ codeWords (k.content (Context.ofTable t c))) ∧
    (∀ n ∈ codeWords (k.content (Context.ofTable t c)), beginsWithCapital n.toList = true →
      n ∈ k.foreignTypes t.fieldTypes ∨ (∃ j, n = (Context.ofTable t c).typeName j) ∨
        n ∈ fileConstants ∨ n ∈ t.columns.map (·.fieldName)) := by
  obtain ⟨rfl, hpackage, -⟩ := Config.validate_eq_ok package path c hc
  have hname : t.entityName ≠ "" :=
    (Members.isPlainWord_of_isIdentifier _ (t.isIdentifier_entityName ht)).ne_empty
  have hforeign := k.forall_typeName_not_mem_iff (k.foreignTypes t.fieldTypes)
    (isFixedType_foreignTypes k t.fieldTypes)
    (by rintro rfl; exact ArtifactKind.mem_foreignTypes_repository _) ArtifactKind.all
    (fun _ => by decide) t.entityName hname
  have hall : ∀ j, j ∈ ArtifactKind.all := by
    intro j
    cases j <;> decide
  refine ⟨declared_content t _ ht hpackage k, importedTypes_content t _ ht hpackage k,
    nodup_declared_importedTypes_iff t _ ht hpackage k, ?_, ?_, ?_⟩
  · simp only [hall, true_implies] at hforeign
    exact hforeign
  · exact mem_codeWords_of_foreign t _ ht hpackage k
  · exact codeWords_cases t _ ht hpackage k

def labelTable (name : String) : Table := Table.ofColumns name [⟨"label", "string"⟩]

theorem types_apart_orderItem :
    (labelTable "order_item").checkNames = .ok () ∧
    (declared (ArtifactKind.mapper.content
        (Context.ofTable (labelTable "order_item") ⟨"pkg", ⟨"out"⟩⟩)) ++
      importedTypes (ArtifactKind.mapper.content
        (Context.ofTable (labelTable "order_item") ⟨"pkg", ⟨"out"⟩⟩))).Nodup ∧
    ∀ j, (Context.ofTable (labelTable "order_item") ⟨"pkg", ⟨"out"⟩⟩).typeName j ∉
      ArtifactKind.mapper.foreignTypes (labelTable "order_item").fieldTypes := by
  have hnames : (labelTable "order_item").checkNames = .ok () := by decide
  obtain ⟨-, -, himports, huses, -⟩ := types_apart_iff (labelTable "order_item") "pkg" ⟨"out"⟩
    ⟨"pkg", ⟨"out"⟩⟩ hnames rfl .mapper
  refine ⟨hnames, himports.mpr ⟨fun _ => ?_, by decide⟩, huses.mpr ⟨?_, by decide⟩⟩
  · decide
  · rw [ArtifactKind.foreignTypes_of_no_fields _ _ (by decide)]
    decide

/-- The mapper of a table of mappers imports both its entity and the annotation that it uses. -/
theorem types_clash_mapper :
    (labelTable "mapper").checkNames = .ok () ∧
    Config.validate "pkg" ⟨"out"⟩ = .ok ⟨"pkg", ⟨"out"⟩⟩ ∧
    importedTypes (ArtifactKind.mapper.content
        (Context.ofTable (labelTable "mapper") ⟨"pkg", ⟨"out"⟩⟩)) =
      ["Mapper", "MapperDTO", "List", "BeanMapping", "Mapper", "MappingTarget", "Named",
        "NullValuePropertyMappingStrategy"] ∧
    ¬ (declared (ArtifactKind.mapper.content
        (Context.ofTable (labelTable "mapper") ⟨"pkg", ⟨"out"⟩⟩)) ++
      importedTypes (ArtifactKind.mapper.content
        (Context.ofTable (labelTable "mapper") ⟨"pkg", ⟨"out"⟩⟩))).Nodup ∧
    (Context.ofTable (labelTable "mapper") ⟨"pkg", ⟨"out"⟩⟩).typeName .entity ∈
      ArtifactKind.mapper.foreignTypes (labelTable "mapper").fieldTypes := by
  have hnames : (labelTable "mapper").checkNames = .ok () := by decide
  have hpackage : Config.checkPackage "pkg" = .ok () := by decide
  have himported := importedTypes_content _ ⟨"pkg", ⟨"out"⟩⟩ hnames hpackage .mapper
  have hdeclared := declared_content _ ⟨"pkg", ⟨"out"⟩⟩ hnames hpackage .mapper
  refine ⟨hnames, rfl, ?_, ?_, ?_⟩
  · rw [himported]
    decide
  · rw [himported, hdeclared]
    decide
  · rw [ArtifactKind.foreignTypes_of_no_fields _ _ (by decide)]
    decide

end CrudLayer
