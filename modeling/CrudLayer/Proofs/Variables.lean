import Mathlib
import CrudLayer.Proofs.FileTexts
import CrudLayer.Proofs.MemberNames
import CrudLayer.Proofs.ReservedWords

namespace CrudLayer

namespace Listing

/-- The variable that a line declares with a value: the second of the two words before the value. -/
def local? (line : List Char) : Option (List Char) :=
  if '=' ∈ line then
    match words (line.takeWhile (· != '=')) with
    | [_, name] => some name
    | _ => none
  else none

/-- The variables that the code of a text declares with values, in order. -/
def localNames (text : String) : List String :=
  ((text.toList.splitOn '\n').filterMap local?).map String.ofList

end Listing

namespace Filling.IsSafe

open Listing

variable {σ : Filling} (h : σ.IsSafe)

include h in
/-- A variable is read alike after names are filled in. -/
theorem local?_flatMap (cs : List Char) :
    local? (cs.flatMap σ.spelling) = (local? cs).map (·.flatMap σ.spelling) := by
  have hvalue := h.spares_char '=' (by decide) (by decide) (by decide) cs
  -- No name brings an equality sign along.
  have hmem : '=' ∈ cs.flatMap σ.spelling ↔ '=' ∈ cs := by
    rw [List.mem_flatMap]
    constructor
    · rintro ⟨c, hc, hd⟩
      by_contra hnone
      have hother : (c == '=') = false := by
        rw [beq_eq_false_iff_ne]
        rintro rfl
        exact hnone hc
      exact absurd ((hvalue c hc).2 hother '=' hd) (by decide)
    · intro hc
      exact ⟨'=', hc, by simp [(hvalue '=' hc).1 (by decide)]⟩
  have hbefore : (cs.flatMap σ.spelling).takeWhile (· != '=') =
      (cs.takeWhile (· != '=')).flatMap σ.spelling := by
    apply takeWhile_flatMap
    simpa [bne] using hvalue
  have hblank := h.spares_char ' ' (by decide) (by decide) (by decide) (cs.takeWhile (· != '='))
  rw [local?, local?, hbefore, words_flatMap h.spelling_ne_nil _ hblank]
  simp only [hmem]
  split
  · -- There are as many words as before.
    match words (cs.takeWhile (· != '=')) with
    | [] => rfl
    | [_] => rfl
    | [_, _] => rfl
    | _ :: _ :: _ :: _ => rfl
  · rfl

end Filling.IsSafe

/-- The text may be the name of a variable: it is an identifier, and no reserved word. -/
def Naming.IsVariableName (s : String) : Prop := isIdentifier s = true ∧ s ∉ reservedWords

instance (s : String) : Decidable (Naming.IsVariableName s) :=
  inferInstanceAs (Decidable (_ ∧ _))

namespace Members

open Listing Naming

def parameterNames (s : Signature) : List String := s.parameters.map (·.2)

/-- The parameters of accessors have the names of the fields. -/
theorem parameterNames_allSignatures (fields : List Field) :
    (allSignatures fields).flatMap parameterNames = identityColumn :: fields.map (·.name) := by
  have hfield : ∀ f ∈ fields, (signatures f).flatMap parameterNames = [f.name] := fun _ _ => rfl
  have hfields : (fields.flatMap signatures).flatMap parameterNames = fields.map (·.name) := by
    rw [List.flatMap_assoc, List.flatMap_congr hfield]
    exact List.flatMap_pure_eq_map _ _
  rw [allSignatures, List.flatMap_append, hfields]
  rfl

end Members

section Accepted

open Naming

variable (t : Table) (c : Config) (ht : t.checkNames = .ok ())
  (hc : Config.checkPackage c.basePackage = .ok ())

include ht hc in
/-- The service declares the variable for the entity twice, to save and to update it. -/
theorem localNames_content :
    Listing.localNames (ArtifactKind.serviceImplementation.content (Context.ofTable t c)) =
      [(Context.ofTable t c).entityVariable, (Context.ofTable t c).entityVariable] := by
  have h := Filling.isSafe_withoutField t c ht hc
  -- In the form the variable is one letter, and the two lines are found by computing.
  have hform : (formCharacters .serviceImplementation).val.filterMap Listing.local? =
      [['ω'], ['ω']] := by
    decide
  rw [Listing.localNames, characters_content_form t c ht hc _ (by decide), List.filterMap_map]
  have hcomm : (Listing.local? ∘
      fun cs => cs.flatMap (Filling.mk (Context.ofTable t c) (Field.form .text)).spelling) =
        fun cs => (Listing.local? cs).map
          (·.flatMap (Filling.mk (Context.ofTable t c) (Field.form .text)).spelling) :=
    funext fun cs => h.local?_flatMap cs
  rw [hcomm, ← List.map_filterMap, hform]
  simp only [List.map_cons, List.map_nil, List.flatMap_singleton, Filling.spelling_variable,
    String.ofList_toList]

include ht in
/-- The field of a column has the name of a reserved word exactly if the column has, underscores
after it apart. -/
theorem fieldName_mem_reservedWords_iff (col : Column) (hcol : col ∈ t.columns) :
    col.fieldName ∈ reservedWords ↔
      ∃ w ∈ reservedWords, ∃ n, col.name.toList = w.toList ++ underscores n := by
  have hname : col.fieldName.toList = camel false col.name.toList := String.toList_ofList
  constructor
  · intro hmem
    rcases isWord_of_mem_reservedWords _ hmem with hunder | hword
    · have hnone := no_underscore_snakeToCamel col.name
      have heq : Naming.snakeToCamel col.name = "_" := hunder
      rw [heq] at hnone
      exact absurd hnone (by decide)
    · exact ⟨_, hmem, (camel_eq_word_iff _ _ hword).mp hname.symm⟩
  · rintro ⟨w, hw, n, hn⟩
    rcases isWord_of_mem_reservedWords w hw with rfl | hword
    · -- Underscores alone leave no name for the field.
      have hnil : col.fieldName.toList = [] := by
        rw [hname, hn]
        exact camel_underscores (n + 1) false
      have hid := t.isIdentifier_fieldName ht col hcol
      rw [String.toList_eq_nil_iff.mp hnil] at hid
      exact absurd hid (by decide)
    · have heq : col.fieldName = w := by
        rw [← String.toList_inj, hname]
        exact (camel_eq_word_iff _ _ hword).mpr ⟨n, hn⟩
      rw [heq]
      exact hw

include ht in
/-- The variable for the entity has the name of a reserved word exactly if the table has,
underscores around it and the case of its first letter apart. -/
theorem entityVariable_mem_reservedWords_iff :
    (Context.ofTable t c).entityVariable ∈ reservedWords ↔
      ∃ w ∈ reservedWords, ∃ m n v, t.name.toList = underscores m ++ v ++ underscores n ∧
        capital v = capital w.toList := by
  have hid : isIdentifier (capitalize (snakeToCamel t.name)) = true := t.isIdentifier_entityName ht
  have hvariable : (Context.ofTable t c).entityVariable =
      lowerFirst (capitalize (snakeToCamel t.name)) := rfl
  have hcamel : (snakeToCamel t.name).toList = camel false t.name.toList := String.toList_ofList
  have hword_iff (w : String) (hw : IsWord w.toList) :
      (Context.ofTable t c).entityVariable = w ↔
        ∃ m n v, t.name.toList = underscores m ++ v ++ underscores n ∧
          capital v = capital w.toList := by
    rw [hvariable, lowerFirst_capitalize_eq_iff _ w hid hw, hcamel, capital_camel_eq_iff _ _ hw]
  constructor
  · intro hmem
    rcases isWord_of_mem_reservedWords _ hmem with hunder | hword
    · -- No underscore is left in the name of the entity.
      have hnone := no_underscore_capital _ (no_underscore_snakeToCamel t.name)
      rw [← String.toList_ofList (l := capital _)] at hnone
      have hvar := no_underscore_lowerFirst _ hid hnone
      rw [← hvariable, hunder] at hvar
      exact absurd hvar (by decide)
    · exact ⟨_, hmem, (hword_iff _ hword).mp rfl⟩
  · rintro ⟨w, hw, hrest⟩
    rcases isWord_of_mem_reservedWords w hw with rfl | hword
    · -- The lone underscore comes of underscores alone, and these leave no name.
      obtain ⟨m, n, v, hn, hv⟩ := hrest
      have hnil : (snakeToCamel t.name).toList = [] := by
        rw [hcamel, hn]
        exact capital_camel_eq_nil m n v (hv.trans (by decide))
      rw [String.toList_eq_nil_iff.mp hnil] at hid
      exact absurd hid (by decide)
    · rw [(hword_iff w hword).mpr hrest]
      exact hw

end Accepted

open Naming in
/-- The classes declare a field for each column and set it by a parameter of that name, and the
service declares a variable for the entity. All these names are identifiers. A column's is usable
unless the column is named by a reserved word, with or without underscores after it, and the
entity's unless the table is named by one, with or without underscores around it and whatever case
its first letter has. -/
theorem variables_usable_iff (t : Table) (package : String) (path : Path) (c : Config)
    (ht : t.checkNames = .ok ()) (hc : Config.validate package path = .ok c) :
    (∀ k ∈ Members.holders,
      Listing.fieldNames (k.content (Context.ofTable t c)) =
        "serialVersionUID" :: identityColumn :: t.columns.map (·.fieldName) ∧
      (Listing.methods (k.content (Context.ofTable t c))).flatMap Members.parameterNames =
        identityColumn :: t.columns.map (·.fieldName)) ∧
    Listing.localNames (ArtifactKind.serviceImplementation.content (Context.ofTable t c)) =
      [(Context.ofTable t c).entityVariable, (Context.ofTable t c).entityVariable] ∧
    (∀ col ∈ t.columns, isIdentifier col.fieldName = true ∧
      (IsVariableName col.fieldName ↔
        ∀ w ∈ reservedWords, ∀ n, col.name.toList ≠ w.toList ++ underscores n)) ∧
    isIdentifier (Context.ofTable t c).entityVariable = true ∧
    (IsVariableName (Context.ofTable t c).entityVariable ↔
      ∀ w ∈ reservedWords, ∀ m n v, t.name.toList = underscores m ++ v ++ underscores n →
        capital v ≠ capital w.toList) := by
  obtain ⟨rfl, hpackage, -⟩ := Config.validate_eq_ok package path c hc
  have hinert := Context.isInert_ofTable t ⟨package, path⟩ ht hpackage
  have hplain := Members.arePlainFields_ofTable t ht
  have hvariable : isIdentifier (Context.ofTable t ⟨package, path⟩).entityVariable = true :=
    isIdentifier_lowerFirst _ (t.isIdentifier_entityName ht)
  refine ⟨fun k hk => ⟨?_, ?_⟩, ?_, fun col hcol => ?_, hvariable, ?_⟩
  · rw [← t.map_name_fields]
    exact Members.fieldNames_content _ hinert hplain k hk
  · rw [Members.methods_content _ hinert hplain k hk, Members.parameterNames_allSignatures,
      ← t.map_name_fields]
    rfl
  · exact localNames_content t _ ht hpackage
  · -- An identifier can be used unless it is reserved.
    have hid := t.isIdentifier_fieldName ht col hcol
    refine ⟨hid, ?_⟩
    rw [IsVariableName, fieldName_mem_reservedWords_iff t ht col hcol]
    simp [hid]
  · rw [IsVariableName, entityVariable_mem_reservedWords_iff t _ ht]
    simp [hvariable]

def flagTable (table column : String) : Table := Table.ofColumns table [⟨column, "boolean"⟩]

theorem variables_usable_orderItem :
    (flagTable "order_item" "is_default").checkNames = .ok () ∧
    (∀ name ∈ Listing.localNames (ArtifactKind.serviceImplementation.content
      (Context.ofTable (flagTable "order_item" "is_default") ⟨"pkg", ⟨"out"⟩⟩)),
        Naming.IsVariableName name) ∧
    ∀ k ∈ Members.holders, ∀ name ∈ Listing.fieldNames (k.content
      (Context.ofTable (flagTable "order_item" "is_default") ⟨"pkg", ⟨"out"⟩⟩)),
        Naming.IsVariableName name := by
  have hnames : (flagTable "order_item" "is_default").checkNames = .ok () := by decide
  obtain ⟨hfields, hlocals, -⟩ := variables_usable_iff (flagTable "order_item" "is_default") "pkg"
    ⟨"out"⟩ ⟨"pkg", ⟨"out"⟩⟩ hnames rfl
  refine ⟨hnames, ?_, fun k hk => ?_⟩
  · rw [hlocals]
    decide
  · rw [(hfields k hk).1]
    decide

/-- A table whose names are accepted, with a field and a variable that are called by reserved
words. -/
theorem variables_reserved :
    (flagTable "new" "default").checkNames = .ok () ∧
    Config.validate "pkg" ⟨"out"⟩ = .ok ⟨"pkg", ⟨"out"⟩⟩ ∧
    Listing.localNames (ArtifactKind.serviceImplementation.content
      (Context.ofTable (flagTable "new" "default") ⟨"pkg", ⟨"out"⟩⟩)) = ["new", "new"] ∧
    (∀ k ∈ Members.holders, Listing.fieldNames (k.content
      (Context.ofTable (flagTable "new" "default") ⟨"pkg", ⟨"out"⟩⟩)) =
        ["serialVersionUID", "id", "default"]) ∧
    ¬ Naming.IsVariableName "new" ∧ ¬ Naming.IsVariableName "default" := by
  have hnames : (flagTable "new" "default").checkNames = .ok () := by decide
  have hpackage : Config.checkPackage "pkg" = .ok () := by decide
  have hinert := Context.isInert_ofTable _ ⟨"pkg", ⟨"out"⟩⟩ hnames hpackage
  refine ⟨hnames, rfl, ?_, fun k hk => ?_, by decide, by decide⟩
  · rw [localNames_content _ _ hnames hpackage]
    decide
  · rw [Members.fieldNames_content _ hinert (Members.arePlainFields_ofTable _ hnames) k hk]
    decide

end CrudLayer
