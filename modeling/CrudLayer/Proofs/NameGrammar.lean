import Mathlib
import CrudLayer.Proofs.IdentityColumn
import CrudLayer.Proofs.ReservedWords

/-!
Which names a table's check accepts, said of the names as they are declared. The check is made on
the names derived from these, where underscores are gone and some letters raised, which makes a
difference to letters only. So an ASCII name is accepted exactly if it is an identifier once its
underscores are taken out, and the fault that is reported is the first one.
-/
namespace CrudLayer

namespace Naming

/-- A letter or dollar sign, and letters, digits and dollar signs after it. -/
def IsBare : List Char → Prop
  | [] => False
  | c :: cs => (c.isAlpha = true ∨ c = '$') ∧ ∀ d ∈ cs, d.isAlphanum = true ∨ d = '$'

instance : DecidablePred IsBare := fun
  | [] => .isFalse id
  | c :: cs => decidable_of_iff ((c.isAlpha = true ∨ c = '$') ∧
      (cs.all fun d => d.isAlphanum || d == '$') = true) (by simp [IsBare])

/-- The name can be declared: it is an identifier once its underscores are taken out. -/
def IsUsable (s : String) : Prop := IsBare (s.toList.filter (· ≠ '_'))

instance (s : String) : Decidable (IsUsable s) :=
  inferInstanceAs (Decidable (IsBare _))

/-- What holds of all letters does not depend on case. -/
theorem toLower_iff (P : Char → Prop) (hP : ∀ c, c.isAlpha = true → P c) (c : Char) :
    P c.toLower ↔ P c := by
  by_cases hc : c.isUpper = true
  · have halpha : c.isAlpha = true := by simp [Char.isAlpha, hc]
    exact iff_of_true (hP _ (by simpa using halpha)) (hP c halpha)
  · rw [Char.toLower_eq_of_not_isUpper hc]

theorem isBare_map_toLower (cs : List Char) : IsBare (cs.map Char.toLower) ↔ IsBare cs := by
  cases cs with
  | nil => exact Iff.rfl
  | cons c cs =>
    have hfirst := toLower_iff (fun c => c.isAlpha = true ∨ c = '$') (fun c h => Or.inl h) c
    have hrest := toLower_iff (fun c => c.isAlphanum = true ∨ c = '$')
      fun c h => Or.inl (by simp [Char.isAlphanum, h])
    simp only [IsBare, List.map_cons, List.forall_mem_map, hfirst, hrest]

/-- Whether a name is bare does not depend on the case of its letters. -/
theorem isBare_congr {cs ds : List Char} (h : cs.map Char.toLower = ds.map Char.toLower) :
    IsBare cs ↔ IsBare ds := by
  rw [← isBare_map_toLower cs, h, isBare_map_toLower]

/-- Without underscores, identifiers are the bare names. -/
theorem isIdentifier_iff_isBare (s : String) (h : '_' ∉ s.toList) :
    isIdentifier s = true ↔ IsBare s.toList := by
  unfold isIdentifier
  cases hs : s.toList with
  | nil => simp [IsBare]
  | cons c cs =>
    rw [hs, List.mem_cons, not_or] at h
    have hrest : ∀ d ∈ cs, d ≠ '_' := fun d hd heq => h.2 (heq ▸ hd)
    simp only [startsIdentifier, continuesIdentifier, IsBare, Bool.and_eq_true, Bool.or_eq_true,
      beq_iff_eq, List.all_eq_true, Ne.symm h.1, or_false]
    refine and_congr_right fun _ => forall₂_congr fun d hd => ?_
    simp [hrest d hd]

end Naming

open Naming

/-- A column's field has an identifier for its name exactly if its own name is usable. -/
theorem Column.isIdentifier_fieldName_iff (c : Column) (h : Text.IsAscii c.name) :
    isIdentifier c.fieldName = true ↔ IsUsable c.name := by
  rw [fieldName, isIdentifier_iff_isBare _ (no_underscore_snakeToCamel c.name), IsUsable]
  apply isBare_congr
  rw [snakeToCamel, String.toList_ofList, map_toLower_camel false _ h]

namespace Table

theorem isIdentifier_entityName_iff (t : Table) (h : Text.IsAscii t.name) :
    isIdentifier t.entityName = true ↔ IsUsable t.name := by
  have hcamel : ∀ c ∈ (camel false t.name.toList).head?, c.toNat < 0x80 := by
    have hall := isAscii_snakeToCamel t.name h
    rw [Text.IsAscii, snakeToCamel, String.toList_ofList] at hall
    exact fun c hc => hall c (List.mem_of_mem_head? hc)
  have hlist : t.entityName.toList = capital (camel false t.name.toList) := by
    rw [entityName, Naming.entityName, capitalize, snakeToCamel, String.toList_ofList,
      String.toList_ofList]
  have hunder : '_' ∉ t.entityName.toList := by
    rw [hlist]
    exact no_underscore_capital _ (no_underscore_camel false _)
  rw [isIdentifier_iff_isBare _ hunder, hlist, IsUsable]
  apply isBare_congr
  rw [map_toLower_capital _ hcamel, map_toLower_camel false _ h]

/-- Columns that pass the check leave their field names behind, for those after them. -/
theorem checkFields_append (seen : List String) (before rest : List Column)
    (h : checkFields seen before = .ok ()) :
    checkFields seen (before ++ rest) =
      checkFields ((before.map (·.fieldName)).reverse ++ seen) rest := by
  induction before generalizing seen with
  | nil => rfl
  | cons b before ih =>
    obtain ⟨hall, hnodup⟩ := (checkFields_eq_ok_iff seen (b :: before)).mp h
    obtain ⟨hid, hfree⟩ := hall b List.mem_cons_self
    rw [checkFields, if_pos hid, if_neg hfree] at h
    rw [List.cons_append, checkFields, if_pos hid, if_neg hfree, ih _ h]
    simp

inductive Offends (seen : List String) (c : Column) : NameFault → Prop
  | fieldName (hid : isIdentifier c.fieldName = false) :
    Offends seen c (.fieldName c.name c.fieldName)
  | duplicateField (hid : isIdentifier c.fieldName = true) (hseen : c.fieldName ∈ seen) :
    Offends seen c (.duplicateField c.name c.fieldName)

/-- The check stops at the first column that offends. -/
theorem Offends.checkFields {seen : List String} {c : Column} {fault : NameFault}
    (h : Offends seen c fault) (after : List Column) :
    checkFields seen (c :: after) = .error fault := by
  cases h with
  | fieldName hid => simp [Table.checkFields, hid]
  | duplicateField hid hseen => simp [Table.checkFields, hid, hseen]

/-- The check fails at the first column that offends, those before it having passed. -/
theorem checkFields_eq_error_iff (seen : List String) (cs : List Column) (fault : NameFault) :
    checkFields seen cs = .error fault ↔
      ∃ before c after, cs = before ++ c :: after ∧ checkFields seen before = .ok () ∧
        Offends ((before.map (·.fieldName)).reverse ++ seen) c fault := by
  constructor
  · intro h
    induction cs generalizing seen with
    | nil => simp [checkFields] at h
    | cons c cs ih =>
      by_cases hid : isIdentifier c.fieldName = true
      swap
      · rw [checkFields, if_neg hid, Except.error.injEq] at h
        rw [Bool.not_eq_true] at hid
        exact ⟨[], c, cs, rfl, rfl, h ▸ .fieldName hid⟩
      by_cases hseen : c.fieldName ∈ seen
      · rw [checkFields, if_pos hid, if_pos hseen, Except.error.injEq] at h
        exact ⟨[], c, cs, rfl, rfl, h ▸ .duplicateField hid hseen⟩
      · -- This column passes, so the fault lies with a later one.
        rw [checkFields, if_pos hid, if_neg hseen] at h
        obtain ⟨before, d, after, rfl, hok, hoff⟩ := ih _ h
        refine ⟨c :: before, d, after, rfl, ?_, by simpa using hoff⟩
        rw [checkFields, if_pos hid, if_neg hseen, hok]
  · rintro ⟨before, c, after, rfl, hok, hoff⟩
    rw [checkFields_append seen before _ hok, hoff.checkFields]

def AreUsable (cs : List Column) : Prop :=
  (∀ c ∈ cs, IsUsable c.name) ∧ (cs.map (·.fieldName)).Nodup

instance (cs : List Column) : Decidable (AreUsable cs) :=
  inferInstanceAs (Decidable (_ ∧ _))

/-- The first fault of a table's names: the table's own name comes before those of its columns, and
these come in the order of their declaration. -/
inductive IsFirstFault (t : Table) : NameFault → Prop
  | typeName (ht : ¬ IsUsable t.name) : IsFirstFault t (.typeName t.name t.entityName)
  | fieldName (ht : IsUsable t.name) (before : List Column) (c : Column) (after : List Column)
    (hsplit : t.columns = before ++ c :: after) (hbefore : AreUsable before)
    (hc : ¬ IsUsable c.name) : IsFirstFault t (.fieldName c.name c.fieldName)
  | duplicateField (ht : IsUsable t.name) (before : List Column) (c : Column) (after : List Column)
    (hsplit : t.columns = before ++ c :: after) (hbefore : AreUsable before)
    (hc : c.fieldName ∈ before.map (·.fieldName)) :
    IsFirstFault t (.duplicateField c.name c.fieldName)

theorem checkFields_nil_eq_ok_iff (cs : List Column) (h : ∀ c ∈ cs, Text.IsAscii c.name) :
    checkFields [] cs = .ok () ↔ AreUsable cs := by
  rw [checkFields_eq_ok_iff, AreUsable]
  refine and_congr_left fun _ => forall₂_congr fun c hc => ?_
  rw [c.isIdentifier_fieldName_iff (h c hc)]
  simp

/-- Among columns with ASCII names it is seen from the names as declared which one offends first. -/
theorem checkFields_eq_error_iff_isFirstFault (t : Table) (ht : IsUsable t.name)
    (hcs : ∀ c ∈ t.columns, Text.IsAscii c.name) (fault : NameFault) :
    checkFields [] t.columns = .error fault ↔ IsFirstFault t fault := by
  have hpart : ∀ before c after, t.columns = before ++ c :: after →
      (∀ b ∈ before, Text.IsAscii b.name) ∧ Text.IsAscii c.name := by
    intro before c after hsplit
    exact ⟨fun b hb => hcs b (by simp [hsplit, hb]), hcs c (by simp [hsplit])⟩
  rw [checkFields_eq_error_iff]
  constructor
  · rintro ⟨before, c, after, hsplit, hok, hoff⟩
    obtain ⟨hbefore, hc⟩ := hpart before c after hsplit
    rw [checkFields_nil_eq_ok_iff before hbefore] at hok
    cases hoff with
    | fieldName hid =>
      rw [← Bool.not_eq_true, c.isIdentifier_fieldName_iff hc] at hid
      exact .fieldName ht before c after hsplit hok hid
    | duplicateField hid hseen =>
      exact .duplicateField ht before c after hsplit hok (by simpa using hseen)
  · intro h
    cases h with
    | typeName hnot => exact absurd ht hnot
    | fieldName _ before c after hsplit hbefore hc =>
      obtain ⟨hascii, hc'⟩ := hpart before c after hsplit
      rw [← c.isIdentifier_fieldName_iff hc', Bool.not_eq_true] at hc
      exact ⟨before, c, after, hsplit, (checkFields_nil_eq_ok_iff before hascii).mpr hbefore,
        .fieldName hc⟩
    | duplicateField _ before c after hsplit hbefore hc =>
      have hascii := (hpart before c after hsplit).1
      obtain ⟨b, hb, heq⟩ := List.mem_map.mp hc
      -- The earlier column passed, and with it the name that both have.
      have hid : isIdentifier c.fieldName = true := by
        rw [← heq]
        exact (b.isIdentifier_fieldName_iff (hascii b hb)).mpr (hbefore.1 b hb)
      exact ⟨before, c, after, hsplit, (checkFields_nil_eq_ok_iff before hascii).mpr hbefore,
        .duplicateField hid (by simpa using hc)⟩

end Table

/-- A report says of which kind the fault is: no two kinds share one. -/
theorem NameFault.nodup_messages (table entity column field column' field' : String) :
    ([typeName table entity, fieldName column field, duplicateField column' field'].map
      message).Nodup := by
  have hstart : ∀ a b : String, "table name '" ++ a ≠ "column '" ++ b := by
    intro a b heq
    have hhead := congrArg (fun s => s.toList.head?) heq
    simp at hhead
  have hend : ∀ a b : String, a ++ "')" ≠ b ++ "'" := by
    intro a b heq
    have hlast := congrArg (fun s => s.toList.getLast?) heq
    simp at hlast
  have htype : (typeName table entity).message =
      "table name '" ++ (table ++ ("' does not produce a valid type name (got '" ++
        (entity ++ "')"))) := by
    simp only [← String.append_assoc]
    rfl
  have hfield : (fieldName column field).message =
      "column '" ++ (column ++ ("' does not produce a valid field name (got '" ++
        (field ++ "')"))) := by
    simp only [← String.append_assoc]
    rfl
  have hduplicate : (duplicateField column' field').message =
      "column '" ++ (column' ++ ("' duplicates field '" ++ (field' ++ "'"))) := by
    simp only [← String.append_assoc]
    rfl
  simp only [List.map_cons, List.map_nil, List.nodup_cons, List.mem_cons, List.not_mem_nil,
    or_false, not_or, not_false_eq_true, List.nodup_nil, and_true]
  -- Both reports about columns begin alike, and differ in how they end.
  refine ⟨⟨?_, ?_⟩, hend _ _⟩
  · rw [htype, hfield]
    exact hstart _ _
  · rw [htype, hduplicate]
    exact hstart _ _

namespace Table

/-- A table with ASCII names passes the check exactly if all its names can be used and no two
columns lead to one field. If it does not pass, the report is of the first name that cannot be used
or leads to an earlier field, and tells which of these it is. -/
theorem checkNames_first_fault (t : Table) (ht : Text.IsAscii t.name)
    (hcs : ∀ c ∈ t.columns, Text.IsAscii c.name) :
    (t.checkNames = .ok () ↔ IsUsable t.name ∧ AreUsable t.columns) ∧
    (∀ fault, t.checkNames = .error fault ↔ IsFirstFault t fault) ∧
    ∀ table entity column field column' field', ([NameFault.typeName table entity,
      .fieldName column field, .duplicateField column' field'].map NameFault.message).Nodup := by
  have hentity := t.isIdentifier_entityName_iff ht
  refine ⟨?_, fun fault => ?_, NameFault.nodup_messages⟩
  · by_cases hname : IsUsable t.name
    · rw [checkNames, if_pos (hentity.mpr hname), checkFields_nil_eq_ok_iff t.columns hcs]
      simp [hname]
    · rw [checkNames, if_neg (mt hentity.mp hname)]
      simp [hname]
  · by_cases hname : IsUsable t.name
    · rw [checkNames, if_pos (hentity.mpr hname)]
      exact t.checkFields_eq_error_iff_isFirstFault hname hcs fault
    · rw [checkNames, if_neg (mt hentity.mp hname), Except.error.injEq]
      constructor
      · rintro rfl
        exact .typeName hname
      · intro h
        cases h with
        | typeName _ => rfl
        | fieldName hused => exact absurd hused hname
        | duplicateField hused => exact absurd hused hname

/-- A table with two columns that lead to one field, and after them one whose name begins with a
digit. -/
def lapseTable : Table := ofColumns "item" [⟨"a_b", "int"⟩, ⟨"a__b", "int"⟩, ⟨"_2", "int"⟩]

theorem checkNames_first_fault_lapse :
    Text.IsAscii lapseTable.name ∧ (∀ c ∈ lapseTable.columns, Text.IsAscii c.name) ∧
    lapseTable.checkNames = .error (.duplicateField "a__b" "aB") ∧
    lapseTable.checkNames ≠ .ok () := by
  have ht : Text.IsAscii lapseTable.name := by decide
  have hcs : ∀ c ∈ lapseTable.columns, Text.IsAscii c.name := by decide
  obtain ⟨hok, herror, -⟩ := checkNames_first_fault lapseTable ht hcs
  refine ⟨ht, hcs, (herror _).mpr ?_, fun h => absurd (hok.mp h).2 (by decide)⟩
  exact .duplicateField (by decide) [⟨"a_b", "int"⟩] ⟨"a__b", "int"⟩ [⟨"_2", "int"⟩] (by decide)
    (by decide) (by decide)

end Table
end CrudLayer
