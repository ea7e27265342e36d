import Mathlib
import CrudLayer.Proofs.NameForms

namespace CrudLayer

namespace Naming

theorem arePlain_camel (raise : Bool) (cs : List Char) (h : ArePlain cs) :
    ArePlain (camel raise cs) := by
  refine forall_mem_camel _ (fun c hc d hd => ?_) raise cs h
  rw [Text.upper_ascii c (ascii_of_continuesIdentifier c hc), List.mem_singleton] at hd
  rw [hd, continuesIdentifier_toUpper, hc]

/-- Both passes leave the first character what it is, but for its case. -/
theorem isIdentifier_snakeToCamel_camelToSnake (s : String) (h : isIdentifier s = true)
    (hunder : '_' ∉ s.toList) : isIdentifier (snakeToCamel (camelToSnake s)) = true := by
  have hplain := arePlain_of_isIdentifier s h
  obtain ⟨c, cs, hs⟩ := exists_cons_of_isIdentifier s h
  simp only [hs, List.mem_cons, not_or] at hunder
  have hc : c.toLower ≠ '_' := toLower_ne_underscore c (Ne.symm hunder.1)
  have hsnake : (camelToSnake s).toList =
      c.toLower :: (separate c.isLower cs).map Char.toLower := by
    rw [camelToSnake_ascii s (isAscii_of_arePlain s hplain), String.toList_ofList, hs,
      separate_false_cons, List.map_cons]
  have htail : ArePlain (camel false ((separate c.isLower cs).map Char.toLower)) := by
    have hall := arePlain_camel false _ (arePlain_camelToSnake s hplain)
    rw [hsnake] at hall
    exact fun d hd => hall d (by simp [camel, hc, hd])
  simp only [isIdentifier, hs, Bool.and_eq_true] at h
  -- The first letter comes back small, and no underscore was put before it.
  have hback : (snakeToCamel (camelToSnake s)).toList =
      c.toLower :: camel false ((separate c.isLower cs).map Char.toLower) := by
    simp [snakeToCamel, hsnake, camel, hc]
  rw [isIdentifier, hback]
  simpa [ArePlain, startsIdentifier_toLower c h.1] using htail

end Naming

namespace Column

/-- The column that the field of this column is stored in, declared with some storage type. -/
def stored (c : Column) (storageType : String) : Column :=
  ⟨(Field.ofColumn c).columnName, storageType⟩

section

variable (c : Column) (storageType : String) (h : Naming.isIdentifier c.fieldName = true)
include h

/-- What an accepted column is stored under is a snake form. -/
theorem isSnakeForm_columnName : Naming.IsSnakeForm (Field.ofColumn c).columnName := by
  have hascii := Naming.isAscii_of_arePlain _ (Naming.arePlain_of_isIdentifier _ h)
  refine Naming.isSnakeForm_camelToSnake _ hascii ?_ (Naming.no_underscore_snakeToCamel c.name)
  intro hempty
  rw [hempty] at h
  exact absurd h (by decide)

/-- The stored name is accepted for a column again. -/
theorem isIdentifier_fieldName_stored :
    Naming.isIdentifier (c.stored storageType).fieldName = true :=
  Naming.isIdentifier_snakeToCamel_camelToSnake _ h (Naming.no_underscore_snakeToCamel c.name)

/-- It is stored under itself the second time. -/
theorem columnName_stored :
    (Field.ofColumn (c.stored storageType)).columnName = (Field.ofColumn c).columnName :=
  (c.isSnakeForm_columnName h).restored

/-- The fields of both columns are stored under one name, so their names differ in the case of
letters at most. -/
theorem isIdentity_stored : (c.stored storageType).isIdentity = c.isIdentity := by
  have hplain := Naming.arePlain_of_isIdentifier _ h
  have hagain := Naming.arePlain_of_isIdentifier _ (c.isIdentifier_fieldName_stored storageType h)
  have hshape := (Naming.camelToSnake_eq_iff _ _ hagain hplain
    (Naming.no_underscore_snakeToCamel _) (Naming.no_underscore_snakeToCamel _)).mp
    (c.columnName_stored storageType h)
  have hletters := beq_iff_eq.mp hshape.1
  rw [isIdentity, isIdentity, Text.sameIgnoringAsciiCase, Text.sameIgnoringAsciiCase, hletters]

end

end Column

namespace Entity

/-- The columns of a database that stores the entity with this text, in some order and with some
storage types: the identity and each column that the text names. -/
def AreColumns (text : String) (columns : List Column) : Prop :=
  (columns.map (·.name)).Perm (identityColumn :: storedNames text).dedup

instance (text : String) (columns : List Column) : Decidable (AreColumns text columns) :=
  inferInstanceAs (Decidable (List.Perm _ _))

/-- No two columns of the database have one name. -/
theorem AreColumns.nodup {text : String} {columns : List Column} (h : AreColumns text columns) :
    (columns.map (·.name)).Nodup :=
  (List.Perm.nodup_iff h).mpr (List.nodup_dedup _)

/-- A database has the identity and the columns that the entity names. -/
theorem AreColumns.mem_iff {text : String} {columns : List Column} (h : AreColumns text columns)
    (name : String) :
    name ∈ columns.map (·.name) ↔ name = identityColumn ∨ name ∈ storedNames text := by
  rw [List.Perm.mem_iff h, List.mem_dedup, List.mem_cons]

/-- A database column is the identity or stores a field. -/
theorem AreColumns.eq_stored {t : Table} {c : Config} {columns : List Column}
    (h : AreColumns (ArtifactKind.entity.content (Context.ofTable t c)) columns)
    (hinert : (Context.ofTable t c).IsInert) (d : Column) (hd : d ∈ columns) :
    d.name = identityColumn ∨ ∃ col ∈ t.columns, d = col.stored d.storageType := by
  refine ((h.mem_iff d.name).mp (List.mem_map_of_mem hd)).imp_right fun hname => ?_
  rw [storedNames_content _ hinert] at hname
  obtain ⟨f, hf, hfd⟩ := List.mem_map.mp hname
  obtain ⟨col, hcol, rfl⟩ := List.mem_map.mp hf
  exact ⟨col, hcol, by rw [Column.stored, hfd]⟩

section

variable {t : Table} {c : Config} {columns : List Column}
  (h : AreColumns (ArtifactKind.entity.content (Context.ofTable t c)) columns)
  (ht : t.checkNames = .ok ()) (hinert : (Context.ofTable t c).IsInert)
include h ht hinert

/-- Of the columns of the database the identity is left out, and no other. -/
theorem AreColumns.columns_ofColumns :
    (Table.ofColumns t.name columns).columns = columns.filter (·.name ≠ identityColumn) := by
  refine List.filter_congr fun d hd => ?_
  rcases h.eq_stored hinert d hd with hid | ⟨col, hcol, hstored⟩
  · have hidentity : d.isIdentity = true := by
      rw [Column.isIdentity, Column.fieldName, hid]
      decide
    simp [hid, hidentity]
  · have hidentity : d.isIdentity = false := by
      rw [hstored, col.isIdentity_stored _ (t.isIdentifier_fieldName ht col hcol)]
      exact t.no_identity col hcol
    have hname : d.name ≠ identityColumn := by
      rw [hstored]
      exact t.columnName_ne_identity ht col hcol
    simp [hname, hidentity]

theorem AreColumns.columnName_eq_name (d : Column) (hd : d ∈ columns)
    (hname : d.name ≠ identityColumn) :
    Naming.isIdentifier d.fieldName = true ∧ (Field.ofColumn d).columnName = d.name := by
  obtain ⟨col, hcol, hstored⟩ := (h.eq_stored hinert d hd).resolve_left hname
  have hid := t.isIdentifier_fieldName ht col hcol
  rw [hstored]
  exact ⟨col.isIdentifier_fieldName_stored _ hid, col.columnName_stored _ hid⟩

/-- The second entity stores its columns under the names that the first has stored. -/
theorem AreColumns.map_columnName :
    (Table.ofColumns t.name columns).fields.map (·.columnName) =
      (columns.map (·.name)).filter (· ≠ identityColumn) := by
  rw [Table.fields, h.columns_ofColumns ht hinert, List.map_map, List.filter_map]
  refine List.map_congr_left fun d hd => ?_
  obtain ⟨hd, hname⟩ := List.mem_filter.mp hd
  exact (h.columnName_eq_name ht hinert d hd (by simpa using hname)).2

/-- The columns of the database pass the check: two fields of one name would be stored under one. -/
theorem AreColumns.checkNames : (Table.ofColumns t.name columns).checkNames = .ok () := by
  have hentity : Naming.isIdentifier (Table.ofColumns t.name columns).entityName = true :=
    t.isIdentifier_entityName ht
  rw [Table.checkNames, hentity, if_pos rfl, Table.checkFields_eq_ok_iff]
  refine ⟨fun d hd => ?_, ?_⟩
  · rw [h.columns_ofColumns ht hinert] at hd
    obtain ⟨hd, hname⟩ := List.mem_filter.mp hd
    exact ⟨(h.columnName_eq_name ht hinert d hd (by simpa using hname)).1, by simp⟩
  · have hnodup := h.nodup.filter (· ≠ identityColumn)
    rw [← h.map_columnName ht hinert, Table.fields, List.map_map] at hnodup
    exact List.Nodup.of_map Naming.camelToSnake (by
      simpa [Function.comp_def, Field.ofColumn] using hnodup)

end

/-- What a field is stored under is the name of a column that is accepted again, is the identity
only if the field is, and is stored under its own name. So the entity for the columns of a database
that stores an entity is stored in the same columns. -/
theorem second_pass_stable :
    (∀ col : Column, Naming.isIdentifier col.fieldName = true → ∀ storageType : String,
      Naming.isIdentifier (col.stored storageType).fieldName = true ∧
      (col.stored storageType).isIdentity = col.isIdentity ∧
      (Field.ofColumn (col.stored storageType)).columnName = (Field.ofColumn col).columnName) ∧
    ∀ (t : Table) (package : String) (path : Path) (c : Config) (columns : List Column),
      t.checkNames = .ok () → Config.validate package path = .ok c →
      AreColumns (ArtifactKind.entity.content (Context.ofTable t c)) columns →
      (Table.ofColumns t.name columns).checkNames = .ok () ∧
      storedNames (ArtifactKind.entity.content
        (Context.ofTable (Table.ofColumns t.name columns) c)) =
          (columns.map (·.name)).filter (· ≠ identityColumn) ∧
      ∀ name, name ∈ storedNames (ArtifactKind.entity.content
          (Context.ofTable (Table.ofColumns t.name columns) c)) ↔
        name ∈ storedNames (ArtifactKind.entity.content (Context.ofTable t c)) := by
  refine ⟨fun col hid storageType => ⟨col.isIdentifier_fieldName_stored storageType hid,
    col.isIdentity_stored storageType hid, col.columnName_stored storageType hid⟩, ?_⟩
  intro t package path c columns ht hc h
  obtain ⟨rfl, hpackage, -⟩ := Config.validate_eq_ok package path c hc
  have hinert := Context.isInert_ofTable t ⟨package, path⟩ ht hpackage
  have hagain := h.checkNames ht hinert
  have hstored := storedNames_content _ (Context.isInert_ofTable
    (Table.ofColumns t.name columns) ⟨package, path⟩ hagain hpackage)
  have hnames := hstored.trans (h.map_columnName ht hinert)
  refine ⟨hagain, hnames, fun name => ?_⟩
  -- No column of the table is stored as the identity is, so leaving that out takes none away.
  have hne : identityColumn ∉
      storedNames (ArtifactKind.entity.content (Context.ofTable t ⟨package, path⟩)) := by
    rw [storedNames_content _ hinert]
    intro hmem
    obtain ⟨f, hf, hid⟩ := List.mem_map.mp hmem
    obtain ⟨col, hcol, rfl⟩ := List.mem_map.mp hf
    exact t.columnName_ne_identity ht col hcol hid
  rw [hnames, List.mem_filter, h.mem_iff]
  simp only [ne_eq, decide_not, Bool.not_eq_true', decide_eq_false_iff_not]
  constructor
  · rintro ⟨hname, hother⟩
    exact hname.resolve_left hother
  · intro hname
    exact ⟨Or.inr hname, fun heq => hne (heq ▸ hname)⟩

/-- Both names are others after the first pass, `httpserver` and `a_bc`, and stay so after the
second. -/
theorem second_pass_stable_server :
    storedNames (ArtifactKind.entity.content (Context.ofTable (Table.ofColumns "item"
      [⟨"a_bc", "string"⟩, ⟨"id", "bigint"⟩, ⟨"httpserver", "int"⟩]) ⟨"pkg", ⟨"out"⟩⟩)) =
      ["a_bc", "httpserver"] ∧
    Naming.isIdentifier (Column.stored ⟨"a_b_c", "int"⟩ "string").fieldName = true := by
  have hnames : (pairTable "HTTPServer" "a_b_c").checkNames = .ok () := by decide
  have hpackage : Config.checkPackage "pkg" = .ok () := by decide
  have hcolumns : AreColumns (ArtifactKind.entity.content
      (Context.ofTable (pairTable "HTTPServer" "a_b_c") ⟨"pkg", ⟨"out"⟩⟩))
      [⟨"a_bc", "string"⟩, ⟨"id", "bigint"⟩, ⟨"httpserver", "int"⟩] := by
    rw [AreColumns,
      storedNames_content _ (Context.isInert_ofTable _ ⟨"pkg", ⟨"out"⟩⟩ hnames hpackage)]
    decide
  obtain ⟨hcolumn, htable⟩ := second_pass_stable
  have hagain := htable (pairTable "HTTPServer" "a_b_c") "pkg" ⟨"out"⟩ ⟨"pkg", ⟨"out"⟩⟩ _ hnames rfl
    hcolumns
  refine ⟨hagain.2.1.trans ?_, (hcolumn ⟨"a_b_c", "int"⟩ ?_ "string").1⟩ <;>
    decide

end Entity
end CrudLayer
