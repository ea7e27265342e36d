import Mathlib
import CrudLayer.Proofs.ClassTexts

namespace CrudLayer

/-- What tells a method from others of one name: the types of its parameters. -/
def Signature.overload (s : Signature) : String × List String := (s.name, s.parameters.map (·.1))

namespace Naming

/-- Which of the two cases the first letter is in makes no difference to whether two names differ in
more than that. -/
theorem capitalize_eq_iff (s t : String) (hs : isIdentifier s = true) (ht : isIdentifier t = true) :
    capitalize s = capitalize t ↔ lowerFirst s = lowerFirst t := by
  obtain ⟨c, cs, hsl, hc⟩ := exists_ascii_cons_of_isIdentifier s hs
  obtain ⟨d, ds, htl, hd⟩ := exists_ascii_cons_of_isIdentifier t ht
  have hcase : c.toUpper = d.toUpper ↔ c.toLower = d.toLower := by
    constructor
    · intro h
      rw [← Char.toLower_toUpper_eq_toLower c, h, Char.toLower_toUpper_eq_toLower]
    · intro h
      rw [← Char.toUpper_toLower_eq_toUpper c, h, Char.toUpper_toLower_eq_toUpper]
  simp [capitalize, lowerFirst, hsl, htl, capital, Text.upper_ascii c hc, Text.upper_ascii d hd,
    Text.lower_ascii c hc, Text.lower_ascii d hd, hcase]

end Naming

namespace Members

open Listing Naming

def overloads (f : Field) : List (String × List String) := (signatures f).map Signature.overload

/-- A field has a getter without parameters and a setter with one. -/
theorem overloads_eq (f : Field) : overloads f =
    [("get" ++ f.accessor, []), ("set" ++ f.accessor, [f.type.javaType])] := rfl

/-- The accessors of two fields clash exactly if they have one name. -/
theorem disjoint_overloads_iff (f g : Field) :
    List.Disjoint (overloads f) (overloads g) ↔ f.accessor ≠ g.accessor := by
  rw [overloads_eq, overloads_eq]
  constructor
  · intro hdisjoint heq
    have hmem : ("get" ++ f.accessor, []) ∈
        [("get" ++ g.accessor, ([] : List String)), ("set" ++ g.accessor, [g.type.javaType])] := by
      simp [heq]
    exact hdisjoint (by simp) hmem
  · intro hne
    -- A getter never is a setter, and two setters differ in name as the getters do.
    simp [Ne.symm hne]

theorem map_overload_allSignatures (fields : List Field) :
    (allSignatures fields).map Signature.overload =
      [("getId", []), ("setId", ["Long"])] ++ fields.flatMap overloads := by
  simp only [allSignatures, List.map_append, List.map_flatMap]
  rfl

theorem getter_mem_overloads_iff (fields : List Field) (accessor : String) :
    ("get" ++ accessor, []) ∈ fields.flatMap overloads ↔ ∃ f ∈ fields, f.accessor = accessor := by
  simp [overloads_eq, eq_comm]

/-- No two methods clash exactly if no two accessors have one name. -/
theorem nodup_overloads_iff (fields : List Field) (hid : ∀ f ∈ fields, f.accessor ≠ "Id") :
    ((allSignatures fields).map Signature.overload).Nodup ↔
      fields.Pairwise fun f g => f.accessor ≠ g.accessor := by
  have hown : ∀ f ∈ fields, (overloads f).Nodup := by
    intro f _
    simp [overloads_eq]
  -- The accessors of the identity are not those of a column.
  have hapart : List.Disjoint ([("getId", []), ("setId", ["Long"])] : List (String × List String))
      (fields.flatMap overloads) := by
    intro m hm hmem
    obtain ⟨f, hf, hmem⟩ := List.mem_flatMap.mp hmem
    have hdisjoint := (disjoint_overloads_iff ⟨"", "Id", "", .longInteger⟩ f).mpr
      fun h => hid f hf h.symm
    exact hdisjoint hm hmem
  rw [map_overload_allSignatures, List.nodup_append', List.nodup_flatMap]
  simp only [hapart, and_true]
  constructor
  · rintro ⟨-, -, hpairwise⟩
    exact hpairwise.imp fun h => (disjoint_overloads_iff _ _).mp h
  · intro hpairwise
    exact ⟨by decide, hown, hpairwise.imp fun h => (disjoint_overloads_iff _ _).mpr h⟩

/-- Accessors have one name if the fields differ at most in the case of the first letter. -/
theorem accessor_eq_iff (t : Table) (ht : t.checkNames = .ok ()) (a b : Column)
    (ha : a ∈ t.columns) (hb : b ∈ t.columns) :
    (Field.ofColumn a).accessor = (Field.ofColumn b).accessor ↔
      lowerFirst a.fieldName = lowerFirst b.fieldName :=
  capitalize_eq_iff _ _ (t.isIdentifier_fieldName ht a ha) (t.isIdentifier_fieldName ht b hb)

theorem accessor_eq_capitalize_iff (t : Table) (ht : t.checkNames = .ok ()) (c : Column)
    (hc : c ∈ t.columns) (name : String) (hname : isIdentifier name = true) :
    (Field.ofColumn c).accessor = capitalize name ↔ lowerFirst c.fieldName = lowerFirst name :=
  capitalize_eq_iff _ _ (t.isIdentifier_fieldName ht c hc) hname

/-- A field whose accessors were those of the identity would be the identity. -/
theorem accessor_ne_id (t : Table) (ht : t.checkNames = .ok ()) (c : Column)
    (hc : c ∈ t.columns) : (Field.ofColumn c).accessor ≠ "Id" := by
  intro heq
  have hcapital : "Id" = capitalize identityColumn := by decide
  have hlower : lowerFirst identityColumn = identityColumn := by decide
  rw [hcapital, accessor_eq_capitalize_iff t ht c hc identityColumn (by decide), hlower] at heq
  obtain ⟨d, ds, hds⟩ := exists_cons_of_isIdentifier _ (t.isIdentifier_fieldName ht c hc)
  have hd := t.ascii_fieldName ht c hc d (by simp [hds])
  have hlist := congrArg String.toList heq
  simp only [lowerFirst, hds, Text.lower_ascii d hd, String.toList_ofList] at hlist
  have hsame : Text.sameIgnoringAsciiCase c.fieldName identityColumn = true := by
    have hcons : d.toLower :: ds = ['i', 'd'] := by simpa [identityColumn] using hlist
    obtain ⟨hi, rfl⟩ := List.cons_eq_cons.mp hcons
    rw [Text.sameIgnoringAsciiCase, hds, List.map_cons, hi]
    decide
  rw [t.not_identity_fieldName c hc] at hsame
  exact absurd hsame (by decide)

section Accepted

variable (t : Table) (ht : t.checkNames = .ok ())

include ht

theorem accessor_ne_id_of_mem_fields (f : Field) (hf : f ∈ t.fields) : f.accessor ≠ "Id" := by
  obtain ⟨col, hcol, rfl⟩ := List.mem_map.mp hf
  exact accessor_ne_id t ht col hcol

/-- The fields of columns are apart from the identity and from each other, so only the version is in
question. -/
theorem nodup_fields_iff :
    ("serialVersionUID" :: identityColumn :: t.fields.map (·.name)).Nodup ↔
      ∀ col ∈ t.columns, col.fieldName ≠ "serialVersionUID" := by
  have hidentity : identityColumn ∉ t.columns.map (·.fieldName) := by
    intro hmem
    obtain ⟨col, hcol, heq⟩ := List.mem_map.mp hmem
    have hsame := t.not_identity_fieldName col hcol
    rw [heq] at hsame
    exact absurd hsame (by decide)
  have hversion : "serialVersionUID" ≠ identityColumn := by decide
  rw [t.map_name_fields, List.nodup_cons, List.nodup_cons]
  simp [hidentity, t.nodup_fieldName ht, hversion]

/-- A getter is no setter, so methods clash only if accessors have one name. -/
theorem nodup_allSignatures_iff :
    ((allSignatures t.fields).map Signature.overload).Nodup ↔
      t.columns.Pairwise fun a b => lowerFirst a.fieldName ≠ lowerFirst b.fieldName := by
  rw [nodup_overloads_iff t.fields (accessor_ne_id_of_mem_fields t ht), Table.fields,
    List.pairwise_map]
  apply List.Pairwise.iff_of_mem
  intro a b ha hb
  exact (accessor_eq_iff t ht a b ha hb).not

/-- The identity is read by its own getter and by none of a column. -/
theorem count_getId_allSignatures :
    ((allSignatures t.fields).map Signature.overload).count ("getId", []) = 1 := by
  have hnone : ("getId", []) ∉ t.fields.flatMap overloads := by
    intro hmem
    obtain ⟨f, hf, heq⟩ := (getter_mem_overloads_iff t.fields "Id").mp hmem
    exact accessor_ne_id_of_mem_fields t ht f hf heq
  rw [map_overload_allSignatures, List.count_append, List.count_eq_zero.mpr hnone]
  decide

/-- A column is read by the method that every object has for its class exactly if it is called so. -/
theorem getClass_mem_allSignatures_iff :
    ("getClass", []) ∈ (allSignatures t.fields).map Signature.overload ↔
      ∃ col ∈ t.columns, lowerFirst col.fieldName = "class" := by
  have haccessor (col : Column) (hcol : col ∈ t.columns) :
      (Field.ofColumn col).accessor = "Class" ↔ lowerFirst col.fieldName = "class" := by
    have hcapital : "Class" = capitalize "class" := by decide
    have hlower : lowerFirst "class" = "class" := by decide
    rw [hcapital, accessor_eq_capitalize_iff t ht col hcol "class" (by decide), hlower]
  have hmem : ("getClass", []) ∈ (allSignatures t.fields).map Signature.overload ↔
      ∃ f ∈ t.fields, f.accessor = "Class" := by
    rw [map_overload_allSignatures, ← getter_mem_overloads_iff t.fields "Class"]
    simp
  rw [hmem, Table.fields]
  constructor
  · rintro ⟨f, hf, heq⟩
    obtain ⟨col, hcol, rfl⟩ := List.mem_map.mp hf
    exact ⟨col, hcol, (haccessor col hcol).mp heq⟩
  · rintro ⟨col, hcol, heq⟩
    exact ⟨_, List.mem_map_of_mem hcol, (haccessor col hcol).mpr heq⟩

end Accepted

/-- In both classes the fields have distinct names exactly if no column is called as the version is,
and the methods have distinct signatures exactly if no two fields differ in the case of their first
letters at most. The identity is read by the one method that is its own, and a field is read by a
method that every object has already exactly if its name is that of the class, in either case. -/
theorem members_apart_iff (t : Table) (package : String) (path : Path) (c : Config)
    (ht : t.checkNames = .ok ()) (hc : Config.validate package path = .ok c) (k : ArtifactKind)
    (hk : k ∈ holders) :
    ((fieldNames (k.content (Context.ofTable t c))).Nodup ↔
      ∀ col ∈ t.columns, col.fieldName ≠ "serialVersionUID") ∧
    (((methods (k.content (Context.ofTable t c))).map Signature.overload).Nodup ↔
      t.columns.Pairwise fun a b => lowerFirst a.fieldName ≠ lowerFirst b.fieldName) ∧
    ((methods (k.content (Context.ofTable t c))).map Signature.overload).count ("getId", []) = 1 ∧
    (("getClass", []) ∈ (methods (k.content (Context.ofTable t c))).map Signature.overload ↔
      ∃ col ∈ t.columns, lowerFirst col.fieldName = "class") := by
  obtain ⟨rfl, hpackage, -⟩ := Config.validate_eq_ok package path c hc
  have hinert := Context.isInert_ofTable t ⟨package, path⟩ ht hpackage
  have hplain := arePlainFields_ofTable t ht
  have hfields : fieldNames (k.content (Context.ofTable t ⟨package, path⟩)) =
      "serialVersionUID" :: identityColumn :: t.fields.map (·.name) :=
    fieldNames_content _ hinert hplain k hk
  have hmethods : methods (k.content (Context.ofTable t ⟨package, path⟩)) =
      allSignatures t.fields := methods_content _ hinert hplain k hk
  rw [hfields, hmethods]
  exact ⟨nodup_fields_iff t ht, nodup_allSignatures_iff t ht, count_getId_allSignatures t ht,
    getClass_mem_allSignatures_iff t ht⟩

def accountTable (columns : List String) : Table :=
  Table.ofColumns "account" (columns.map (⟨·, "string"⟩))

theorem members_apart_account :
    (fieldNames (ArtifactKind.entity.content
      (Context.ofTable (accountTable ["first_name", "email"]) ⟨"pkg", ⟨"out"⟩⟩))).Nodup ∧
    ((methods (ArtifactKind.entity.content
      (Context.ofTable (accountTable ["first_name", "email"]) ⟨"pkg", ⟨"out"⟩⟩))).map
        Signature.overload).Nodup ∧
    ("getClass", []) ∉ (methods (ArtifactKind.entity.content
      (Context.ofTable (accountTable ["first_name", "email"]) ⟨"pkg", ⟨"out"⟩⟩))).map
        Signature.overload := by
  have hapart := members_apart_iff (accountTable ["first_name", "email"]) "pkg" ⟨"out"⟩
    ⟨"pkg", ⟨"out"⟩⟩ (by decide) rfl .entity (by decide)
  refine ⟨hapart.1.mpr (by decide), hapart.2.1.mpr (by decide), ?_⟩
  exact hapart.2.2.2.not.mpr (by decide)

/-- A table whose names are accepted, and whose classes have a field twice, a method twice and a
method that every object has. -/
theorem members_clash :
    (accountTable ["name", "Name", "class", "serialVersionUID"]).checkNames = .ok () ∧
    Config.validate "pkg" ⟨"out"⟩ = .ok ⟨"pkg", ⟨"out"⟩⟩ ∧
    ∀ k ∈ holders,
      ¬ (fieldNames (k.content (Context.ofTable
        (accountTable ["name", "Name", "class", "serialVersionUID"]) ⟨"pkg", ⟨"out"⟩⟩))).Nodup ∧
      ¬ ((methods (k.content (Context.ofTable
        (accountTable ["name", "Name", "class", "serialVersionUID"]) ⟨"pkg", ⟨"out"⟩⟩))).map
          Signature.overload).Nodup ∧
      ("getClass", []) ∈ (methods (k.content (Context.ofTable
        (accountTable ["name", "Name", "class", "serialVersionUID"]) ⟨"pkg", ⟨"out"⟩⟩))).map
          Signature.overload := by
  have hnames :
      (accountTable ["name", "Name", "class", "serialVersionUID"]).checkNames = .ok () := by
    decide
  have hpackage : Config.checkPackage "pkg" = .ok () := by decide
  have hinert := Context.isInert_ofTable _ ⟨"pkg", ⟨"out"⟩⟩ hnames hpackage
  refine ⟨hnames, rfl, fun k hk => ?_⟩
  rw [fieldNames_content _ hinert (arePlainFields_ofTable _ hnames) k hk,
    methods_content _ hinert (arePlainFields_ofTable _ hnames) k hk]
  refine ⟨?_, ?_, ?_⟩ <;> decide

end Members

end CrudLayer
