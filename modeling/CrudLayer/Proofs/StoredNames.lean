import Mathlib
import CrudLayer.Artifact.Content
import CrudLayer.Proofs.Lines
import CrudLayer.Proofs.RoundTrip

namespace CrudLayer.Entity

open Listing

theorem no_break_of_isInertText (s : String) (h : IsInertText s) : '\n' ∉ s.toList :=
  h.not_mem '\n' (by decide) (by decide) (by decide)

theorem no_break_javaType (s : SemanticType) : '\n' ∉ s.javaType.toList := by
  cases s <;> decide

theorem no_break_package (ctx : Context) (h : ctx.IsInert) (k : ArtifactKind) :
    '\n' ∉ (ctx.package k).toList := by
  have hlayer : '\n' ∉ (".".intercalate k.layer).toList := by
    cases k <;> decide
  rw [Context.package, ArtifactKind.package, String.toList_append, String.toList_append]
  simp only [List.mem_append, not_or]
  exact ⟨⟨no_break_of_isInertText _ h.package, by decide⟩, hlayer⟩

theorem no_break_typeName (ctx : Context) (h : ctx.IsInert) (k : ArtifactKind) :
    '\n' ∉ (ctx.typeName k).toList := by
  have hsuffix : '\n' ∉ k.suffix.toList := by
    cases k <;> decide
  simp [Context.typeName, ArtifactKind.typeName, no_break_of_isInertText _ h.entity, hsuffix]

/-- What holds for the accessors of the identity field and of every other field. -/
theorem forall_mem_allAccessors (ctx : Context) (P : Listing → Prop)
    (hid : P (Members.getter "Long" identityColumn "Id") ∧
      P (Members.setter "Long" identityColumn "Id"))
    (hfield : ∀ f ∈ ctx.fields, P (Members.getter f.type.javaType f.name f.accessor) ∧
      P (Members.setter f.type.javaType f.name f.accessor)) :
    ∀ p ∈ Members.allAccessors ctx, P p := by
  intro p hp
  rcases List.mem_append.mp hp with hp | hp
  · simp only [List.mem_cons, List.not_mem_nil, or_false] at hp
    rcases hp with rfl | rfl
    · exact hid.1
    · exact hid.2
  · obtain ⟨f, hf, hp⟩ := List.mem_flatMap.mp hp
    simp only [Members.accessors, List.mem_cons, List.not_mem_nil, or_false] at hp
    rcases hp with rfl | rfl
    · exact (hfield f hf).1
    · exact (hfield f hf).2

theorem unbroken_accessors (type name accessor : String) (ht : '\n' ∉ type.toList)
    (hn : '\n' ∉ name.toList) (ha : '\n' ∉ accessor.toList) :
    Unbroken (Members.getter type name accessor) ∧
      Unbroken (Members.setter type name accessor) := by
  simp [Members.getter, Members.setter, ht, hn, ha]

/-- No line of an entity holds a line end. -/
theorem unbroken_listing (ctx : Context) (h : ctx.IsInert) : Unbroken (listing ctx) := by
  -- The parts hold fixed text and names that are made of inert characters.
  have hfixed : ∀ p ∈ [Members.serialVersion, identity], Unbroken p := by
    simp [Members.serialVersion, identity, Members.identity, Members.declaration, identityColumn]
  have hfields : ∀ p ∈ ctx.fields.map field, Unbroken p := by
    intro p hp
    obtain ⟨f, hf, rfl⟩ := List.mem_map.mp hp
    obtain ⟨hname, -, hcolumn⟩ := h.field f hf
    simp [field, Members.declaration, no_break_javaType, no_break_of_isInertText _ hname,
      no_break_of_isInertText _ hcolumn]
  have haccessors : ∀ p ∈ Members.allAccessors ctx, Unbroken p := by
    apply forall_mem_allAccessors
    · exact unbroken_accessors _ _ _ (by decide) (by decide) (by decide)
    · intro f hf
      obtain ⟨hname, haccessor, -⟩ := h.field f hf
      exact unbroken_accessors _ _ _ (no_break_javaType f.type)
        (no_break_of_isInertText _ hname) (no_break_of_isInertText _ haccessor)
  have hparts : ∀ p ∈ [Members.serialVersion, identity] ++ ctx.fields.map field ++
      Members.allAccessors ctx, Unbroken p :=
    List.forall_mem_append.mpr ⟨List.forall_mem_append.mpr ⟨hfixed, hfields⟩, haccessors⟩
  have htype := no_break_typeName ctx h .entity
  rw [listing, unbroken_file, unbroken_append, unbroken_append, unbroken_documentation,
    unbroken_braced, unbroken_append, unbroken_apart]
  refine ⟨no_break_package ctx h .entity, by simp, ⟨by simp [htype], ?_⟩, by simp [htype], ⟨by simp,
    hparts⟩, by simp⟩
  simp [no_break_of_isInertText _ h.table]

def storedName? : String → Option String := between? "@Column(name = \"" "\")"

/-- The names that the text of an entity says its columns are stored under, in order. -/
def storedNames (text : String) : List String := (lines text).filterMap storedName?

theorem isReader_storedName? : IsReader storedName? :=
  isReader_between _ _ (by decide)

/-- A line is of another kind if it begins otherwise. -/
theorem storedName?_other (start rest : String)
    (h : clash "@Column(name = \"".toList (start.toList.dropWhile (· == ' ')) = true) :
    storedName? (start ++ rest) = none :=
  between?_of_clash _ _ start rest h

theorem storedNames_getter (type name accessor : String) :
    (Members.getter type name accessor).filterMap storedName? = [] := by
  have hhead : storedName? ("public " ++ type ++ " get" ++ accessor ++ "()" ++ " \x7b") = none := by
    simp only [String.append_assoc]
    exact storedName?_other "public " _ (by decide)
  have hbody : storedName? ("return " ++ name ++ ";") = none := by
    rw [String.append_assoc]
    exact storedName?_other "return " _ (by decide)
  rw [Members.getter, filterMap_braced isReader_storedName? _ _ _ hhead
    (storedName?_other "\x7d" "" (by decide))]
  simp [hbody]

theorem storedNames_setter (type name accessor : String) :
    (Members.setter type name accessor).filterMap storedName? = [] := by
  have hhead : storedName? ("public void set" ++ accessor ++ "(" ++ type ++ " " ++ name ++ ")" ++
      " \x7b") = none := by
    simp only [String.append_assoc]
    exact storedName?_other "public void set" _ (by decide)
  have hbody : storedName? ("this." ++ name ++ " = " ++ name ++ ";") = none := by
    simp only [String.append_assoc]
    exact storedName?_other "this." _ (by decide)
  rw [Members.setter, filterMap_braced isReader_storedName? _ _ _ hhead
    (storedName?_other "\x7d" "" (by decide))]
  simp [hbody]

/-- A field of an entity names its column once. -/
theorem storedNames_field (f : Field) : (field f).filterMap storedName? = [f.columnName] := by
  have hcolumn : storedName? ("@Column(name = \"" ++ f.columnName ++ "\")") = some f.columnName :=
    between?_self _ _ _ (by decide) (by decide)
  have hdeclaration : storedName? (Members.declaration f.type.javaType f.name) = none := by
    simp only [Members.declaration, String.append_assoc]
    exact storedName?_other "private " _ (by decide)
  simp [field, hcolumn, hdeclaration]

theorem storedNames_parts (ctx : Context) :
    ([Members.serialVersion, identity] ++ ctx.fields.map field ++
      Members.allAccessors ctx).flatMap (·.filterMap storedName?) =
      ctx.fields.map (·.columnName) := by
  -- Of the members only the fields have a column.
  have hfixed : [Members.serialVersion, identity].flatMap (·.filterMap storedName?) = [] := by
    decide
  have hfields : (ctx.fields.map field).flatMap (·.filterMap storedName?) =
      ctx.fields.map (·.columnName) := by
    simp only [List.flatMap_map, storedNames_field]
    exact List.flatMap_pure_eq_map _ _
  have haccessors : (Members.allAccessors ctx).flatMap (·.filterMap storedName?) = [] := by
    apply List.flatMap_eq_nil_iff.mpr
    apply forall_mem_allAccessors
    · exact ⟨storedNames_getter _ _ _, storedNames_setter _ _ _⟩
    · exact fun f _ => ⟨storedNames_getter _ _ _, storedNames_setter _ _ _⟩
  rw [List.flatMap_append, List.flatMap_append, hfixed, hfields, haccessors]
  simp

theorem lines_content (ctx : Context) (h : ctx.IsInert) :
    lines (ArtifactKind.entity.content ctx) = listing ctx := by
  apply lines_render _ (unbroken_listing ctx h)
  simp [listing, file]

/-- The text of an entity says of each field, in order, what it is stored under, and no more. -/
theorem storedNames_content (ctx : Context) (h : ctx.IsInert) :
    storedNames (ArtifactKind.entity.content ctx) = ctx.fields.map (·.columnName) := by
  have htable : storedName? ("@Table(name = \"" ++ ctx.tableName ++ "\")") = none := by
    rw [String.append_assoc]
    exact storedName?_other "@Table(name = \"" _ (by decide)
  have hhead : storedName? ("public class " ++ ctx.typeName .entity ++
      " implements Serializable" ++ " \x7b") = none := by
    simp only [String.append_assoc]
    exact storedName?_other "public class " _ (by decide)
  have hentity : storedName? "@Entity" = none := by decide
  have hblank : storedName? "" = none := isReader_storedName?.blank
  rw [storedNames, lines_content ctx h, listing,
    filterMap_file isReader_storedName? _ _ _ (fun _ => storedName?_other "package " _ (by decide))
      (fun _ => storedName?_other "import " _ (by decide)),
    List.filterMap_append, List.filterMap_append,
    filterMap_documentation _ (by decide) (fun _ => storedName?_other " *" _ (by decide)),
    filterMap_braced isReader_storedName? _ _ _ hhead (storedName?_other "\x7d" "" (by decide)),
    List.filterMap_append, filterMap_apart isReader_storedName?, storedNames_parts]
  simp [hentity, htable, hblank]

/-- A snake_case name comes back exactly if each of its inner words has more than one letter, and an
entity stores its columns under the declared names exactly if this holds for all of them. -/
theorem stores_declared_names (t : Table) (package : String) (path : Path) (c : Config)
    (ht : t.checkNames = .ok ()) (hc : Config.validate package path = .ok c)
    (hsnake : ∀ col ∈ t.columns, Naming.IsSnake col.name) :
    (∀ x : String, Naming.IsSnake x → (Naming.camelToSnake (Naming.snakeToCamel x) = x ↔
      ∀ w ∈ Naming.innerWords x, 2 ≤ w.length)) ∧
    (storedNames (ArtifactKind.entity.content (Context.ofTable t c)) = t.columns.map (·.name) ↔
      ∀ col ∈ t.columns, ∀ w ∈ Naming.innerWords col.name, 2 ≤ w.length) := by
  refine ⟨Naming.restored_iff, ?_⟩
  obtain ⟨rfl, hpackage, -⟩ := Config.validate_eq_ok package path c hc
  have hfields : (Context.ofTable t ⟨package, path⟩).fields.map (·.columnName) =
      t.columns.map fun col => Naming.camelToSnake (Naming.snakeToCamel col.name) := by
    simp [Context.ofTable, Table.fields, Field.ofColumn, Column.fieldName]
  rw [storedNames_content _ (Context.isInert_ofTable t ⟨package, path⟩ ht hpackage), hfields,
    List.map_inj_left]
  exact forall₂_congr fun col hcol => Naming.restored_iff col.name (hsnake col hcol)

def itemTable (column : String) : Table := Table.ofColumns "item" [⟨column, "int"⟩]

theorem stores_declared_names_orderItem :
    Naming.camelToSnake (Naming.snakeToCamel "order_item_id") = "order_item_id" ∧
    storedNames (ArtifactKind.entity.content
      (Context.ofTable (itemTable "order_item_id") ⟨"pkg", ⟨"out"⟩⟩)) =
        (itemTable "order_item_id").columns.map (·.name) := by
  have hstored := stores_declared_names (itemTable "order_item_id") "pkg" ⟨"out"⟩ ⟨"pkg", ⟨"out"⟩⟩
    (by decide) rfl (by decide)
  refine ⟨(hstored.1 "order_item_id" (by decide)).mpr ?_, hstored.2.mpr ?_⟩ <;>
    decide

/-- The inner word of one letter loses the underscore after it. -/
theorem stores_another_name :
    (itemTable "a_b_c").checkNames = .ok () ∧
    Config.validate "pkg" ⟨"out"⟩ = .ok ⟨"pkg", ⟨"out"⟩⟩ ∧
    (∀ col ∈ (itemTable "a_b_c").columns, Naming.IsSnake col.name) ∧
    (itemTable "a_b_c").columns.map (·.name) = ["a_b_c"] ∧
    Naming.camelToSnake (Naming.snakeToCamel "a_b_c") = "a_bc" ∧
    storedNames (ArtifactKind.entity.content
      (Context.ofTable (itemTable "a_b_c") ⟨"pkg", ⟨"out"⟩⟩)) = ["a_bc"] := by
  have hnames : (itemTable "a_b_c").checkNames = .ok () := by decide
  have hpackage : Config.checkPackage "pkg" = .ok () := by decide
  refine ⟨hnames, rfl, by decide, by decide, by decide, ?_⟩
  rw [storedNames_content _ (Context.isInert_ofTable _ ⟨"pkg", ⟨"out"⟩⟩ hnames hpackage)]
  decide

end CrudLayer.Entity
