import Mathlib
import CrudLayer.Proofs.Imports

namespace CrudLayer

open Listing

def beginsWithCapital (w : List Char) : Bool := w.head?.any Char.isUpper

/-- The constants that files declare for themselves. -/
def fileConstants : List String := ["LOG", "ENTITY_NAME"]

namespace ArtifactKind

/-- The types from elsewhere that a file of a kind uses without their packages, if its fields are of
these types: the words with a capital in its code that come from no name and are no constants. -/
def foreignTypes (k : ArtifactKind) (types : List SemanticType) : List String :=
  (((fileWords (k.listing (Context.form types))).filter beginsWithCapital).map String.ofList).filter
    (· ∉ fileConstants)

/-- Those types from elsewhere that a file of a kind imports by name. -/
def importedForeignTypes (k : ArtifactKind) : List String :=
  ((k.otherImports "").map simpleName).filter (· ≠ "*")

end ArtifactKind

namespace Filling

variable (σ : Filling)

theorem flatMap_spelling_suffix (j : ArtifactKind) :
    ('Ω' :: j.suffix.toList).flatMap σ.spelling = (σ.context.typeName j).toList := by
  have hsuffix : j.suffix.toList.all (·.toNat < 0x80) = true := by
    cases j <;> decide
  rw [List.flatMap_cons, spelling_entity, σ.flatMap_spelling_ascii _ hsuffix, Context.typeName,
    ArtifactKind.typeName, String.toList_append]

/-- What becomes of a word of a form, if it begins with a capital when it is filled in. -/
theorem beginsWithCapital_cases (k : ArtifactKind) (w : List Char) (hw : isFormWord k w = true)
    (hvariable : beginsWithCapital σ.context.entityVariable.toList = false)
    (hne : σ.context.entityVariable ≠ "")
    (hcapital : beginsWithCapital (w.flatMap σ.spelling) = true) :
    (beginsWithCapital w = true ∧ w.flatMap σ.spelling = w) ∨
      (∃ j, w.flatMap σ.spelling = (σ.context.typeName j).toList) ∨
      w.flatMap σ.spelling = σ.field.name.toList := by
  cases w with
  | nil => simp [beginsWithCapital] at hcapital
  | cons c rest =>
    -- A word of a form begins with a capital, with the letter of the entity, or with another.
    simp only [isFormWord] at hw
    split at hw
    · rename_i hupper
      refine Or.inl ⟨by simp [beginsWithCapital, hupper], ?_⟩
      exact σ.flatMap_spelling_ascii _ (Bool.and_eq_true_iff.mp hw).1
    · rename_i hupper
      split at hw
      · rename_i hentity
        obtain ⟨j, -, hj⟩ := List.any_eq_true.mp hw
        rw [beq_iff_eq.mp hentity, ← beq_iff_eq.mp hj] at *
        exact Or.inr (Or.inl ⟨j, σ.flatMap_spelling_suffix j⟩)
      · simp only [Bool.or_eq_true, decide_eq_true_eq, beq_iff_eq] at hw
        rcases hw with (hascii | rfl) | hfield
        · -- A fixed word begins as it does in the form.
          rw [List.flatMap_cons, σ.spelling_ascii c hascii] at hcapital
          exact absurd hcapital (by simpa [beginsWithCapital] using hupper)
        · obtain ⟨d, ds, hds⟩ := List.exists_cons_of_ne_nil
            (show σ.context.entityVariable.toList ≠ [] by simpa using hne)
          rw [List.flatMap_cons, spelling_variable, hds] at hcapital
          rw [hds] at hvariable
          exact absurd hcapital (by simpa [beginsWithCapital] using hvariable)
        · refine Or.inr (Or.inr ?_)
          rw [hfield, List.flatMap_singleton, spelling_field]

end Filling

/-- The words of a form with any fields are of the kinds that are known. -/
theorem isFormWord_of_mem (k : ArtifactKind) (types : List SemanticType) (w : List Char)
    (hw : w ∈ fileWords (k.listing (Context.form types))) : isFormWord k w = true := by
  rcases (mem_fileWords_listing _ k w).mp hw with hw | ⟨f, hf, hw⟩
  · exact List.all_eq_true.mp (all_isFormWord_form k) w hw
  · obtain ⟨type, -, rfl⟩ := List.mem_map.mp hf
    exact List.all_eq_true.mp (all_isFormWord_members k type) w hw

theorem isFixedType_of_beginsWithCapital (k : ArtifactKind) (w : List Char)
    (hw : isFormWord k w = true) (hcapital : beginsWithCapital w = true) :
    isFixedType k w = true := by
  cases w with
  | nil => exact absurd hcapital (by decide)
  | cons c rest =>
    have hupper : c.isUpper = true := by simpa [beginsWithCapital] using hcapital
    simpa [isFormWord, hupper] using hw

/-- Types from elsewhere have fixed names. -/
theorem isFixedType_foreignTypes (k : ArtifactKind) (types : List SemanticType) (n : String)
    (hn : n ∈ k.foreignTypes types) : isFixedType k n.toList = true := by
  obtain ⟨w, hw, rfl⟩ := List.mem_map.mp (List.mem_filter.mp hn).1
  obtain ⟨hw, hcapital⟩ := List.mem_filter.mp hw
  rw [String.toList_ofList]
  exact isFixedType_of_beginsWithCapital k w (isFormWord_of_mem k types w hw) hcapital

/-- The name of a generated type other than the entity is among fixed ones only where the repository
of `Jpa` has the name of the one that it extends. -/
theorem typeName_mem_iff (k : ArtifactKind) (names : List String)
    (hnames : ∀ n ∈ names, isFixedType k n.toList = true) (entity : String) (hentity : entity ≠ "")
    (j : ArtifactKind) (hj : j ≠ .entity) :
    j.typeName entity ∈ names ↔
      (k = .repository ∧ j = .repository ∧ entity = "Jpa") ∧ "JpaRepository" ∈ names := by
  constructor
  · intro hmem
    have hends : j.suffix.toList.isSuffixOf (j.typeName entity).toList = true := by
      rw [List.isSuffixOf_iff_suffix, ArtifactKind.typeName, String.toList_append]
      exact List.suffix_append _ _
    have hlonger : j.suffix.toList ≠ (j.typeName entity).toList := by
      intro heq
      rw [ArtifactKind.typeName, String.toList_append, List.self_eq_append_left] at heq
      exact hentity (by simpa using heq)
    have hfixed := (Bool.and_eq_true_iff.mp (hnames _ hmem)).2
    rcases Bool.or_eq_true_iff.mp hfixed with halike | hall
    · -- Only the repository has a type whose name ends as that of a generated one.
      have hk : k = .repository ∧ (j.typeName entity).toList = "JpaRepository".toList := by
        cases k
        case repository => simpa [ArtifactKind.alikeTypes] using halike
        all_goals exact absurd halike (by simp [ArtifactKind.alikeTypes])
      have hname : j.typeName entity = "JpaRepository" := String.toList_inj.mp hk.2
      rw [hname] at hends hmem
      have hrepository : j = .repository := by
        cases j
        case repository => rfl
        case entity => exact absurd rfl hj
        all_goals exact absurd hends (by decide)
      subst hrepository
      have hjpa : entity ++ "Repository" = "Jpa" ++ "Repository" := hname
      rw [← String.toList_inj, String.toList_append, String.toList_append,
        List.append_cancel_right_eq, String.toList_inj] at hjpa
      exact ⟨⟨hk.1, rfl, hjpa⟩, hmem⟩
    · -- No other fixed type ends in a suffix, unless it is all of the name.
      have hj' := List.all_eq_true.mp hall j (by cases j <;> decide)
      simp [hj, hends, hlonger] at hj'
  · rintro ⟨⟨-, rfl, rfl⟩, hmem⟩
    exact hmem

section Accepted

variable (t : Table) (c : Config) (ht : t.checkNames = .ok ())
  (hc : Config.checkPackage c.basePackage = .ok ()) (k : ArtifactKind)

def Table.fieldTypes (t : Table) : List SemanticType := t.columns.map (·.semanticType)

theorem Table.map_type_fields : t.fields.map (·.type) = t.fieldTypes := by
  simp [Table.fields, Table.fieldTypes, Field.ofColumn]

include ht in
theorem not_beginsWithCapital_entityVariable :
    beginsWithCapital (Context.ofTable t c).entityVariable.toList = false := by
  obtain ⟨d, ds, hds, hd⟩ :=
    Naming.exists_ascii_cons_of_isIdentifier _ (t.isIdentifier_entityName ht)
  have hvariable : (Context.ofTable t c).entityVariable = Naming.lowerFirst t.entityName := rfl
  have hlower : d.toLower.isUpper = false := Char.isUpper_toLower_eq_false d
  rw [hvariable, Naming.toList_lowerFirst _ d ds hds hd]
  simp [beginsWithCapital, hlower]

include ht hc in
/-- A word of the code of a file is one of its form, filled in. -/
theorem exists_of_mem_fileWords (w : List Char)
    (hw : w ∈ fileWords (k.listing (Context.ofTable t c))) :
    ∃ f v, (f = Field.form .text ∨ f ∈ t.fields) ∧
      v ∈ fileWords (k.listing (Context.form t.fieldTypes)) ∧
      w = v.flatMap (Filling.mk (Context.ofTable t c) f).spelling := by
  rcases (mem_fileWords_listing _ k w).mp hw with hw | ⟨f, hf, hw⟩
  · have h := Filling.isSafe_withoutField t c ht hc
    rw [h.fileWords_bare k] at hw
    obtain ⟨v, hv, rfl⟩ := List.mem_map.mp hw
    exact ⟨_, v, Or.inl rfl, (mem_fileWords_listing _ k v).mpr (Or.inl hv), rfl⟩
  · have h := Filling.isSafe_withField t c ht hc f hf
    rw [h.wordsIn_members k] at hw
    obtain ⟨v, hv, rfl⟩ := List.mem_map.mp hw
    have htype : Field.form f.type ∈ (Context.form t.fieldTypes).fields := by
      apply List.mem_map_of_mem
      rw [← t.map_type_fields]
      exact List.mem_map_of_mem hf
    exact ⟨f, v, Or.inr hf, (mem_fileWords_listing _ k v).mpr (Or.inr ⟨_, htype, hv⟩), rfl⟩

include ht hc in
/-- An ASCII word of a form is in every file of it. -/
theorem mem_fileWords_of_form (v : List Char)
    (hv : v ∈ fileWords (k.listing (Context.form t.fieldTypes)))
    (hascii : v.all (·.toNat < 0x80) = true) :
    v ∈ fileWords (k.listing (Context.ofTable t c)) := by
  -- Filling in names leaves ASCII words as they are.
  have hself : ∀ σ : Filling, v.flatMap σ.spelling = v :=
    fun σ => σ.flatMap_spelling_ascii v hascii
  rcases (mem_fileWords_listing _ k v).mp hv with hv | ⟨g, hg, hv⟩
  · have h := Filling.isSafe_withoutField t c ht hc
    refine (mem_fileWords_listing _ k v).mpr (Or.inl ?_)
    rw [h.fileWords_bare k]
    exact List.mem_map.mpr ⟨v, hv, hself _⟩
  · obtain ⟨type, htype, rfl⟩ := List.mem_map.mp hg
    rw [← t.map_type_fields] at htype
    obtain ⟨f, hf, rfl⟩ := List.mem_map.mp htype
    have h := Filling.isSafe_withField t c ht hc f hf
    refine (mem_fileWords_listing _ k v).mpr (Or.inr ⟨f, hf, ?_⟩)
    rw [h.wordsIn_members k]
    exact List.mem_map.mpr ⟨v, hv, hself _⟩

include ht hc in
/-- The types from elsewhere are in the code of every file. -/
theorem mem_codeWords_of_foreign (n : String) (hn : n ∈ k.foreignTypes t.fieldTypes) :
    n ∈ codeWords (k.content (Context.ofTable t c)) := by
  obtain ⟨hmem, -⟩ := List.mem_filter.mp hn
  obtain ⟨w, hw, rfl⟩ := List.mem_map.mp hmem
  obtain ⟨hw, hcapital⟩ := List.mem_filter.mp hw
  have hfixed := isFixedType_of_beginsWithCapital k w (isFormWord_of_mem k _ w hw) hcapital
  rw [codeWords_content t c ht hc k]
  apply List.mem_map_of_mem
  exact mem_fileWords_of_form t c ht hc k w hw (Bool.and_eq_true_iff.mp hfixed).1

include ht hc in
/-- And every word with a capital is one of these, the name of a generated type, a constant, or the
name of a field. -/
theorem codeWords_cases (n : String) (hn : n ∈ codeWords (k.content (Context.ofTable t c)))
    (hcapital : beginsWithCapital n.toList = true) :
    n ∈ k.foreignTypes t.fieldTypes ∨ (∃ j, n = (Context.ofTable t c).typeName j) ∨
      n ∈ fileConstants ∨ n ∈ t.columns.map (·.fieldName) := by
  rw [codeWords_content t c ht hc k] at hn
  obtain ⟨w, hw, rfl⟩ := List.mem_map.mp hn
  obtain ⟨f, v, hf, hv, rfl⟩ := exists_of_mem_fileWords t c ht hc k w hw
  rw [String.toList_ofList] at hcapital
  have hvariable := not_beginsWithCapital_entityVariable t c ht
  have hne := (Context.isSafeName_entityVariable t c ht).ne_empty
  rcases (Filling.mk (Context.ofTable t c) f).beginsWithCapital_cases k v
    (isFormWord_of_mem k _ v hv) hvariable hne hcapital with ⟨hfirst, hself⟩ | ⟨j, hj⟩ | hfield
  · rw [hself]
    -- A fixed word of the form is a constant or a type from elsewhere.
    by_cases hconstant : String.ofList v ∈ fileConstants
    · exact Or.inr (Or.inr (Or.inl hconstant))
    · have hmem := List.mem_map_of_mem (f := String.ofList) (List.mem_filter.mpr ⟨hv, hfirst⟩)
      exact Or.inl (List.mem_filter.mpr ⟨hmem, by simpa using hconstant⟩)
  · exact Or.inr (Or.inl ⟨j, by rw [hj, String.ofList_toList]⟩)
  · rw [hfield] at hcapital
    rcases hf with rfl | hf
    · -- Where nothing has a field, the name of one is a small letter.
      have hletter : beginsWithCapital (Field.form .text).name.toList = false := by decide
      exact absurd hcapital (by rw [hletter]; decide)
    · obtain ⟨col, hcol, rfl⟩ := List.mem_map.mp hf
      rw [hfield, String.ofList_toList]
      exact Or.inr (Or.inr (Or.inr (List.mem_map.mpr ⟨col, hcol, rfl⟩)))

end Accepted
end CrudLayer
