import Mathlib
import CrudLayer.Proofs.FieldLines
import CrudLayer.Proofs.MemberNames
import CrudLayer.Proofs.StoredApart

namespace CrudLayer

namespace Naming

def withoutUnderscores (s : String) : String := String.ofList (s.toList.filter (· ≠ '_'))

/-- Among ASCII letters the lowerCamel form changes nothing but case. -/
theorem map_toLower_camel (raise : Bool) (cs : List Char) (h : ∀ c ∈ cs, c.toNat < 0x80) :
    (camel raise cs).map Char.toLower = (cs.filter (· ≠ '_')).map Char.toLower := by
  induction cs generalizing raise with
  | nil => rfl
  | cons c cs ih =>
    obtain ⟨hc, hcs⟩ := List.forall_mem_cons.mp h
    by_cases hunder : c = '_'
    · simpa [camel, hunder] using ih true hcs
    · have hrest := ih false hcs
      cases raise with
      | false => simpa [camel, hunder] using hrest
      | true =>
        simpa [camel, hunder, Text.upper_ascii c hc, Char.toLower_toUpper_eq_toLower] using hrest

theorem map_toLower_capital (cs : List Char) (h : ∀ c ∈ cs.head?, c.toNat < 0x80) :
    (capital cs).map Char.toLower = cs.map Char.toLower := by
  cases cs with
  | nil => rfl
  | cons c cs =>
    simp [capital, Text.upper_ascii c (h c rfl), Char.toLower_toUpper_eq_toLower]

end Naming

/-- An ASCII name is that of the identity if it differs from it only in case and underscores. -/
theorem Column.isIdentity_of_ascii (c : Column) (h : Text.IsAscii c.name) :
    c.isIdentity =
      Text.sameIgnoringAsciiCase (Naming.withoutUnderscores c.name) identityColumn := by
  have hletters := Naming.map_toLower_camel false c.name.toList h
  rw [isIdentity, fieldName, Text.sameIgnoringAsciiCase, Text.sameIgnoringAsciiCase,
    Naming.snakeToCamel, Naming.withoutUnderscores, String.toList_ofList, String.toList_ofList,
    hletters]

/-- Where one line alone is read as this, it stands one step in as often as this is read there. -/
theorem Listing.count_inner? {α : Type*} [BEq α] [LawfulBEq α] (r : String → Option α)
    (line : String) (a : α) (h : ∀ l, r l = some a ↔ l = line) (ls : Listing) :
    ls.count ("    " ++ line) = (ls.filterMap (inner? r)).count a := by
  have hinner : ∀ l, inner? r l = some a ↔ l = "    " ++ line := by
    intro l
    rw [inner?, Option.bind_eq_some_iff]
    simp only [framed?_eq_some_iff, String.append_empty, h]
    constructor
    · rintro ⟨rest, hl, rfl⟩
      exact hl
    · exact fun hl => ⟨line, hl, rfl⟩
  rw [List.count_filterMap, List.count]
  exact List.countP_congr fun l _ => by simp [hinner]

namespace Members

open Listing Naming

section Counting

variable (text type name accessor : String)

/-- A line that declares a field is counted by what is read from it. -/
theorem count_declaration (ht : ' ' ∉ type.toList) (hn : ' ' ∉ name.toList) :
    (lines text).count ("    " ++ ("private " ++ type ++ " " ++ name ++ ";")) =
      (declarations text).count (type, name) :=
  count_inner? declaration? _ _ (fun l => by simp [declaration?_eq_some_iff, ht, hn]) (lines text)

theorem count_getter (ht : ' ' ∉ type.toList) (ha : ' ' ∉ accessor.toList) :
    (lines text).count ("    " ++ ("public " ++ type ++ " get" ++ accessor ++ "() \x7b")) =
      (getters text).count (type, accessor) :=
  count_inner? getter? _ _ (fun l => by simp [getter?_eq_some_iff, ht, ha]) (lines text)

theorem count_setter (hb : ∀ s ∈ [accessor, type, name], '(' ∉ s.toList)
    (ht : ' ' ∉ type.toList) (hn : ' ' ∉ name.toList) :
    (lines text).count ("    " ++ ("public void set" ++ accessor ++ "(" ++ type ++ " " ++ name ++
      ") \x7b")) = (setters text).count (accessor, type, name) := by
  refine count_inner? setter? _ _ (fun l => ?_) (lines text)
  simp only [List.forall_mem_cons] at hb
  simp [setter?_eq_some_iff, ht, hn, hb]

end Counting

/-- Neither the name of a field nor what stands in the names of its accessors is that of the
identity, in whatever case. -/
theorem names_ne_identity (t : Table) (ht : t.checkNames = .ok ()) (f : Field) (hf : f ∈ t.fields) :
    Text.sameIgnoringAsciiCase f.name identityColumn = false ∧
      Text.sameIgnoringAsciiCase f.accessor "Id" = false ∧ f.columnName ≠ identityColumn := by
  obtain ⟨col, hcol, rfl⟩ := List.mem_map.mp hf
  have hname := t.not_identity_fieldName col hcol
  refine ⟨hname, ?_, t.columnName_ne_identity ht col hcol⟩
  have hletters := Naming.map_toLower_capital col.fieldName.toList fun c hc =>
    t.ascii_fieldName ht col hcol c (List.mem_of_mem_head? hc)
  rw [← hname, Text.sameIgnoringAsciiCase, Text.sameIgnoringAsciiCase, Field.ofColumn,
    Naming.capitalize, String.toList_ofList, hletters]
  rfl

theorem count_cons_map {α β : Type*} [BEq β] [LawfulBEq β] (b : β) (g : α → β) (as : List α)
    (h : ∀ a ∈ as, g a ≠ b) : (b :: as.map g).count b = 1 := by
  have hnone : (as.map g).count b = 0 := by
    rw [List.count_eq_zero, List.mem_map]
    rintro ⟨a, ha, heq⟩
    exact h a ha heq
  rw [List.count_cons_self, hnone]

/-- The lines of the identity stand in both classes of an accepted table once. -/
theorem count_identity (t : Table) (c : Config) (ht : t.checkNames = .ok ())
    (hc : Config.checkPackage c.basePackage = .ok ()) (k : ArtifactKind) (hk : k ∈ holders) :
    (lines (k.content (Context.ofTable t c))).count "    private Long id;" = 1 ∧
      (lines (k.content (Context.ofTable t c))).count "    public Long getId() \x7b" = 1 ∧
      (lines (k.content (Context.ofTable t c))).count
        "    public void setId(Long id) \x7b" = 1 := by
  have hname : ∀ col ∈ t.columns, col.fieldName ≠ "id" := by
    intro col hcol heq
    have hother := t.not_identity_fieldName col hcol
    rw [heq] at hother
    exact absurd hother (by decide)
  have haccessor : ∀ col ∈ t.columns, capitalize col.fieldName ≠ "Id" :=
    fun col hcol => accessor_ne_id t ht col hcol
  -- The three lines, as they are put together.
  have hdeclaration : "    private Long id;" =
      "    " ++ ("private " ++ "Long" ++ " " ++ "id" ++ ";") := by decide
  have hgetter : "    public Long getId() \x7b" =
      "    " ++ ("public " ++ "Long" ++ " get" ++ "Id" ++ "() \x7b") := by decide
  have hsetter : "    public void setId(Long id) \x7b" =
      "    " ++ ("public void set" ++ "Id" ++ "(" ++ "Long" ++ " " ++ "id" ++ ") \x7b") := by decide
  refine ⟨?_, ?_, ?_⟩
  · rw [hdeclaration, count_declaration _ "Long" "id" (by decide) (by decide),
      declarations_content t c ht hc k hk]
    exact count_cons_map _ _ _ fun col hcol heq => hname col hcol (Prod.ext_iff.mp heq).2
  · rw [hgetter, count_getter _ "Long" "Id" (by decide) (by decide),
      getters_content t c ht hc k hk]
    exact count_cons_map _ _ _ fun col hcol heq => haccessor col hcol (Prod.ext_iff.mp heq).2
  · rw [hsetter, count_setter _ "Long" "id" "Id" (by decide) (by decide) (by decide),
      setters_content t c ht hc k hk]
    exact count_cons_map _ _ _ fun col hcol heq => haccessor col hcol (Prod.ext_iff.mp heq).1

/-- A table keeps, in their order, the columns whose names without underscores are not that of the
identity in some case. If the names of the table are accepted, no field comes near the identity, and
the identity's field, getter and setter each have one line in both classes. -/
theorem identity_left_out (name : String) (columns : List Column)
    (hascii : ∀ col ∈ columns, Text.IsAscii col.name) :
    (Table.ofColumns name columns).columns = columns.filter (fun col =>
      !Text.sameIgnoringAsciiCase (withoutUnderscores col.name) identityColumn) ∧
    ((Table.ofColumns name columns).checkNames = .ok () →
      (∀ f ∈ (Table.ofColumns name columns).fields,
        Text.sameIgnoringAsciiCase f.name identityColumn = false ∧
        Text.sameIgnoringAsciiCase f.accessor "Id" = false ∧ f.columnName ≠ identityColumn) ∧
      ∀ (package : String) (path : Path) (c : Config), Config.validate package path = .ok c →
        ∀ k ∈ holders,
          (lines (k.content (Context.ofTable (Table.ofColumns name columns) c))).count
            "    private Long id;" = 1 ∧
          (lines (k.content (Context.ofTable (Table.ofColumns name columns) c))).count
            "    public Long getId() \x7b" = 1 ∧
          (lines (k.content (Context.ofTable (Table.ofColumns name columns) c))).count
            "    public void setId(Long id) \x7b" = 1) := by
  refine ⟨?_, fun ht => ⟨names_ne_identity _ ht, ?_⟩⟩
  · exact List.filter_congr fun col hcol => by rw [col.isIdentity_of_ascii (hascii col hcol)]
  · intro package path c hc k hk
    obtain ⟨rfl, hpackage, -⟩ := Config.validate_eq_ok package path c hc
    exact count_identity _ ⟨package, path⟩ ht hpackage k hk

/-- Six columns. Four of them are the identity, and the others only resemble it. -/
def identityLikeColumns : List Column := [⟨"ID", "int"⟩, ⟨"_i_d", "int"⟩, ⟨"valid", "int"⟩,
  ⟨"id", "bigint"⟩, ⟨"id2", "int"⟩, ⟨"i__D_", "int"⟩]

/-- Of six columns four are the identity, and the identity's lines stand in both classes once. -/
theorem identity_left_out_item :
    (Table.ofColumns "item" identityLikeColumns).columns = [⟨"valid", "int"⟩, ⟨"id2", "int"⟩] ∧
    (lines (ArtifactKind.entity.content (Context.ofTable (Table.ofColumns "item" identityLikeColumns)
      ⟨"pkg", ⟨"out"⟩⟩))).count "    private Long id;" = 1 := by
  obtain ⟨hcolumns, hchecked⟩ := identity_left_out "item" identityLikeColumns (by decide)
  refine ⟨hcolumns.trans (by decide), ?_⟩
  exact ((hchecked (by decide)).2 "pkg" ⟨"out"⟩ ⟨"pkg", ⟨"out"⟩⟩ rfl .entity (by decide)).1

end Members
end CrudLayer
