import Mathlib
import CrudLayer.Artifact.Context
import CrudLayer.Proofs.Planning

namespace CrudLayer

namespace Text

def IsAscii (s : String) : Prop := ∀ c ∈ s.toList, c.toNat < 0x80

instance (s : String) : Decidable (IsAscii s) :=
  decidable_of_iff (s.toList.all (·.toNat < 0x80) = true) (by simp [IsAscii])

/-- In ASCII, upper case is that of a character by itself. -/
theorem upper_ascii (c : Char) (h : c.toNat < 0x80) : upper c = [c.toUpper] := by
  simp [upper, h]

theorem lower_ascii (c : Char) (h : c.toNat < 0x80) : lower c = [c.toLower] := by
  simp [lower, h]

/-- Among ASCII characters it does not matter for the lower case where a word ends. -/
theorem lowerAfter_ascii (before cs : List Char) (h : ∀ c ∈ cs, c.toNat < 0x80) :
    lowerAfter before cs = cs.map Char.toLower := by
  induction cs generalizing before with
  | nil => rfl
  | cons c cs ih =>
    have hc : c.toNat < 0x80 := h c (by simp)
    have hsigma : c ≠ 'Σ' := by
      rintro rfl
      exact absurd hc (by decide)
    have hrest := ih (c :: before) fun d hd => h d (by simp [hd])
    simp [lowerAfter, hsigma, lower_ascii c hc, hrest]

end Text

namespace Naming

theorem ascii_of_isLower (c : Char) (h : c.isLower = true) : c.toNat < 0x80 := by
  simp only [Char.isLower, Bool.and_eq_true, decide_eq_true_eq] at h
  have hz : c.val.toNat ≤ 'z'.val.toNat := UInt32.le_iff_toNat_le.mp h.2
  exact lt_of_le_of_lt hz (by decide)

theorem ascii_of_isUpper (c : Char) (h : c.isUpper = true) : c.toNat < 0x80 := by
  simp only [Char.isUpper, decide_eq_true_eq] at h
  have hz : c.val.toNat ≤ 'Z'.val.toNat := UInt32.le_iff_toNat_le.mp h.2
  exact lt_of_le_of_lt hz (by decide)

theorem not_isUpper_of_isLower (c : Char) (h : c.isLower = true) : c.isUpper = false := by
  by_contra hu
  simp only [Bool.not_eq_false, Char.isUpper, decide_eq_true_eq] at hu
  simp only [Char.isLower, Bool.and_eq_true, decide_eq_true_eq] at h
  have hz : c.val.toNat ≤ 'Z'.val.toNat := UInt32.le_iff_toNat_le.mp hu.2
  have ha : 'a'.val.toNat ≤ c.val.toNat := UInt32.le_iff_toNat_le.mp h.1
  exact absurd (ha.trans hz) (by decide)

theorem isAlpha_of_isLower (c : Char) (h : c.isLower = true) : c.isAlpha = true := by
  simp [Char.isAlpha, h]

theorem toLower_of_isLower (c : Char) (h : c.isLower = true) : c.toLower = c :=
  Char.toLower_eq_of_not_isUpper (by simp [not_isUpper_of_isLower c h])

theorem ascii_of_continuesIdentifier (c : Char) (h : continuesIdentifier c = true) :
    c.toNat < 0x80 := by
  simp only [continuesIdentifier, Char.isAlphanum, Char.isAlpha, Bool.or_eq_true,
    beq_iff_eq] at h
  rcases h with (((h | h) | h) | rfl) | rfl
  · exact ascii_of_isUpper c h
  · exact ascii_of_isLower c h
  · simp only [Char.isDigit, Bool.and_eq_true, decide_eq_true_eq] at h
    have hnine : c.val.toNat ≤ '9'.val.toNat := UInt32.le_iff_toNat_le.mp h.2
    exact lt_of_le_of_lt hnine (by decide)
  · decide
  · decide

theorem continuesIdentifier_of_isAlpha (c : Char) (h : c.isAlpha = true) :
    continuesIdentifier c = true := by
  simp [continuesIdentifier, Char.isAlphanum, h]

theorem continuesIdentifier_toUpper (c : Char) :
    continuesIdentifier c.toUpper = continuesIdentifier c := by
  by_cases h : c.isLower = true
  · have halpha := isAlpha_of_isLower c h
    rw [continuesIdentifier_of_isAlpha c halpha,
      continuesIdentifier_of_isAlpha c.toUpper (by simp [halpha])]
  · rw [Char.toUpper_eq_of_not_isLower h]

theorem continuesIdentifier_toLower (c : Char) :
    continuesIdentifier c.toLower = continuesIdentifier c := by
  by_cases h : c.isUpper = true
  · have halpha : c.isAlpha = true := by simp [Char.isAlpha, h]
    rw [continuesIdentifier_of_isAlpha c halpha,
      continuesIdentifier_of_isAlpha c.toLower (by simp [halpha])]
  · rw [Char.toLower_eq_of_not_isUpper h]

theorem ascii_toUpper (c : Char) (h : c.toNat < 0x80) : c.toUpper.toNat < 0x80 := by
  by_cases hc : c.isLower = true
  · exact ascii_of_isUpper _ (by simp [isAlpha_of_isLower c hc])
  · rwa [Char.toUpper_eq_of_not_isLower hc]

def ArePlain (cs : List Char) : Prop := ∀ c ∈ cs, continuesIdentifier c = true

def ArePlainInAscii (cs : List Char) : Prop :=
  ∀ c ∈ cs, c.toNat < 0x80 → continuesIdentifier c = true

theorem isAscii_of_arePlain (s : String) (h : ArePlain s.toList) : Text.IsAscii s :=
  fun c hc => ascii_of_continuesIdentifier c (h c hc)

theorem arePlain_of_isIdentifier (s : String) (h : isIdentifier s = true) : ArePlain s.toList :=
  continuesIdentifier_of_mem s h

theorem arePlain_capital (cs : List Char) (h : ArePlain cs) : ArePlain (capital cs) := by
  cases cs with
  | nil => exact h
  | cons c cs =>
    have hc := h c (by simp)
    intro d hd
    rw [capital, Text.upper_ascii c (ascii_of_continuesIdentifier c hc)] at hd
    rcases List.mem_append.mp hd with hd | hd
    · rw [List.mem_singleton.mp hd, continuesIdentifier_toUpper, hc]
    · exact h d (by simp [hd])

theorem arePlain_separate (afterSmall : Bool) (cs : List Char) (h : ArePlain cs) :
    ArePlain (separate afterSmall cs) := by
  induction cs generalizing afterSmall with
  | nil => exact h
  | cons d cs ih =>
    have hd := h d (by simp)
    have hrest := ih d.isLower fun c hc => h c (by simp [hc])
    have htail : ArePlain (d :: separate d.isLower cs) := List.forall_mem_cons.mpr ⟨hd, hrest⟩
    unfold separate
    split
    · exact List.forall_mem_cons.mpr ⟨rfl, htail⟩
    · exact htail

theorem arePlain_camelToSnake (s : String) (h : ArePlain s.toList) :
    ArePlain (camelToSnake s).toList := by
  have hsep := arePlain_separate false s.toList h
  have hascii : ∀ c ∈ separate false s.toList, c.toNat < 0x80 :=
    fun c hc => ascii_of_continuesIdentifier c (hsep c hc)
  intro c hc
  rw [camelToSnake, Text.lowercase, String.toList_ofList, String.toList_ofList,
    Text.lowerAfter_ascii [] _ hascii] at hc
  obtain ⟨d, hd, rfl⟩ := List.mem_map.mp hc
  rw [continuesIdentifier_toLower, hsep d hd]

/-- Capitals hide no character that an identifier cannot have. -/
theorem arePlainInAscii_of_capital (cs : List Char) (h : ArePlainInAscii (capital cs)) :
    ArePlainInAscii cs := by
  cases cs with
  | nil => exact h
  | cons c cs =>
    intro d hd hascii
    rcases List.mem_cons.mp hd with rfl | hd
    · rw [← continuesIdentifier_toUpper]
      apply h _ _ (ascii_toUpper d hascii)
      simp [capital, Text.upper_ascii d hascii]
    · exact h d (by simp [capital, hd]) hascii

/-- Nor does the lowerCamel form, which leaves out underscores only. -/
theorem arePlainInAscii_of_camel (raise : Bool) (cs : List Char)
    (h : ArePlainInAscii (camel raise cs)) : ArePlainInAscii cs := by
  induction cs generalizing raise with
  | nil => exact h
  | cons c cs ih =>
    by_cases hunder : c = '_'
    · subst hunder
      have hcamel : camel raise ('_' :: cs) = camel true cs := by simp [camel]
      rw [hcamel] at h
      exact List.forall_mem_cons.mpr ⟨fun _ => rfl, ih true h⟩
    · have hrest : ∀ d ∈ camel false cs, d ∈ camel raise (c :: cs) := by
        intro d hd
        cases raise <;> simp [camel, hunder, hd]
      refine List.forall_mem_cons.mpr ⟨fun hascii => ?_, ih false fun d hd => h d (hrest d hd)⟩
      cases raise with
      | false => exact h c (by simp [camel, hunder]) hascii
      | true =>
        -- A raised ASCII letter is in the form in place of its own.
        rw [← continuesIdentifier_toUpper]
        apply h _ _ (ascii_toUpper c hascii)
        simp [camel, hunder, Text.upper_ascii c hascii]

end Naming

/-- The character ends no line, string, comment or block: it may stand inside an identifier, is the
dot of a package, or lies beyond ASCII. -/
def IsInert (c : Char) : Prop :=
  c.toNat < 0x80 → Naming.continuesIdentifier c = true ∨ c = '.'

def IsInertText (s : String) : Prop := ∀ c ∈ s.toList, IsInert c

/-- An ASCII mark is in no inert text. -/
theorem IsInertText.not_mem {s : String} (h : IsInertText s) (c : Char) (hascii : c.toNat < 0x80)
    (hmark : Naming.continuesIdentifier c = false) (hdot : c ≠ '.') : c ∉ s.toList := by
  intro hmem
  rcases h c hmem hascii with hcontinues | heq
  · rw [hmark] at hcontinues
    exact absurd hcontinues (by decide)
  · exact hdot heq

namespace Table

/-- The check passes if all names are identifiers and no two are the same. -/
theorem checkFields_eq_ok_iff (seen : List String) (cs : List Column) :
    checkFields seen cs = .ok () ↔
      (∀ c ∈ cs, Naming.isIdentifier c.fieldName = true ∧ c.fieldName ∉ seen) ∧
        (cs.map (·.fieldName)).Nodup := by
  induction cs generalizing seen with
  | nil => simp [checkFields]
  | cons c cs ih =>
    unfold checkFields
    split
    · rename_i hid
      split
      · rename_i hseen
        simp [hseen]
      · rename_i hseen
        -- A later name is apart from those seen and from this one.
        rw [ih (c.fieldName :: seen), List.map_cons, List.nodup_cons, List.forall_mem_cons]
        simp only [hid, hseen, List.mem_cons, not_or, not_false_eq_true, and_self, true_and,
          List.mem_map, not_exists, not_and]
        constructor
        · rintro ⟨hall, hnodup⟩
          exact ⟨fun d hd => ⟨(hall d hd).1, (hall d hd).2.2⟩, fun d hd => (hall d hd).2.1, hnodup⟩
        · rintro ⟨hall, hapart, hnodup⟩
          exact ⟨fun d hd => ⟨(hall d hd).1, hapart d hd, (hall d hd).2⟩, hnodup⟩
    · rename_i hid
      simp [hid]

/-- The field names of an accepted table are identifiers. -/
theorem isIdentifier_fieldName (t : Table) (h : t.checkNames = .ok ()) :
    ∀ c ∈ t.columns, Naming.isIdentifier c.fieldName = true := by
  have hid := isIdentifier_entityName t h
  simp only [checkNames, hid, if_true] at h
  exact fun c hc => (((checkFields_eq_ok_iff [] t.columns).mp h).1 c hc).1

/-- The name of an accepted table is printed as declared, and no ASCII character of it can end what
it is printed in. -/
theorem arePlainInAscii_name (t : Table) (h : t.checkNames = .ok ()) :
    Naming.ArePlainInAscii t.name.toList := by
  have hplain := Naming.arePlain_of_isIdentifier _ (isIdentifier_entityName t h)
  simp only [entityName, Naming.entityName, Naming.capitalize, Naming.snakeToCamel,
    String.toList_ofList] at hplain
  apply Naming.arePlainInAscii_of_camel false
  apply Naming.arePlainInAscii_of_capital
  exact fun c hc _ => hplain c hc

end Table

namespace Config

theorem arePlain_of_isPackageSegment (s : String) (h : isPackageSegment s = true) :
    Naming.ArePlain s.toList := by
  unfold isPackageSegment at h
  cases hl : s.toList with
  | nil => simp [hl] at h
  | cons c cs =>
    simp only [hl, Bool.and_eq_true, List.all_eq_true, Bool.or_eq_true, beq_iff_eq] at h
    refine List.forall_mem_cons.mpr ⟨?_, fun d hd => ?_⟩
    · simp only [Naming.continuesIdentifier, Char.isAlphanum, Bool.or_eq_true, beq_iff_eq]
      tauto
    · simp only [Naming.continuesIdentifier, Bool.or_eq_true, beq_iff_eq]
      have hrest := h.2 d hd
      tauto

/-- An accepted package ends nothing that it stands in. -/
theorem isInertText_of_checkPackage (package : String) (h : checkPackage package = .ok ()) :
    IsInertText package := by
  have hsegment := isPackageSegment_of_checkPackage package h
  have hjoin : ['.'].intercalate (package.toList.splitOn '.') = package.toList :=
    List.intercalate_splitOn '.'
  intro c hc _
  rw [← hjoin] at hc
  rcases Path.eq_or_mem_of_mem_intercalate '.' c _ hc with hdot | ⟨piece, hpiece, hmem⟩
  · exact Or.inr hdot
  · have hplain := hsegment (String.ofList piece) (List.mem_map_of_mem hpiece)
    exact Or.inl (arePlain_of_isPackageSegment _ hplain c (by simpa using hmem))

end Config

structure Context.IsInert (ctx : Context) : Prop where
  package : IsInertText ctx.basePackage
  table : IsInertText ctx.tableName
  entity : IsInertText ctx.entityName
  field : ∀ f ∈ ctx.fields,
    IsInertText f.name ∧ IsInertText f.accessor ∧ IsInertText f.columnName

theorem isInertText_of_arePlain (s : String) (h : Naming.ArePlain s.toList) : IsInertText s :=
  fun c hc _ => Or.inl (h c hc)

/-- No name of an accepted table ends what it stands in. -/
theorem Context.isInert_ofTable (t : Table) (c : Config) (ht : t.checkNames = .ok ())
    (hc : Config.checkPackage c.basePackage = .ok ()) : (ofTable t c).IsInert where
  package := Config.isInertText_of_checkPackage c.basePackage hc
  table := fun d hd hascii => Or.inl (t.arePlainInAscii_name ht d hd hascii)
  entity := isInertText_of_arePlain _
    (Naming.arePlain_of_isIdentifier _ (t.isIdentifier_entityName ht))
  field := by
    intro f hf
    obtain ⟨col, hcol, rfl⟩ := List.mem_map.mp hf
    have hplain := Naming.arePlain_of_isIdentifier _ (t.isIdentifier_fieldName ht col hcol)
    refine ⟨isInertText_of_arePlain _ hplain, isInertText_of_arePlain _ ?_,
      isInertText_of_arePlain _ ?_⟩
    · simpa [Field.ofColumn, Naming.capitalize] using Naming.arePlain_capital _ hplain
    · exact Naming.arePlain_camelToSnake _ hplain

end CrudLayer
