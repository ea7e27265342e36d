import Mathlib
import CrudLayer.Proofs.Capitals

namespace CrudLayer

theorem Naming.exists_cons_of_isIdentifier (s : String) (h : isIdentifier s = true) :
    ∃ c cs, s.toList = c :: cs := by
  unfold isIdentifier at h
  split at h
  · exact absurd h (by simp)
  · rename_i c cs hs
    exact ⟨c, cs, hs⟩

/-- All characters of an identifier are ASCII, so changing the case of the first changes no
other. -/
theorem Naming.exists_ascii_cons_of_isIdentifier (s : String) (h : isIdentifier s = true) :
    ∃ c cs, s.toList = c :: cs ∧ c.toNat < 0x80 := by
  obtain ⟨c, cs, hs⟩ := exists_cons_of_isIdentifier s h
  refine ⟨c, cs, hs, ascii_of_continuesIdentifier c ?_⟩
  exact arePlain_of_isIdentifier s h c (by simp [hs])

theorem Naming.toList_lowerFirst (s : String) (c : Char) (cs : List Char) (hs : s.toList = c :: cs)
    (hc : c.toNat < 0x80) : (lowerFirst s).toList = c.toLower :: cs := by
  simp [lowerFirst, hs, Text.lower_ascii c hc]

theorem Naming.startsIdentifier_toLower (c : Char) (h : startsIdentifier c = true) :
    startsIdentifier c.toLower = true := by
  by_cases halpha : c.isAlpha = true
  · simp [startsIdentifier, halpha]
  · have hupper : ¬ c.isUpper = true := by
      simp only [Char.isAlpha, Bool.or_eq_true, not_or] at halpha
      exact halpha.1
    rwa [Char.toLower_eq_of_not_isUpper hupper]

theorem Naming.isIdentifier_lowerFirst (s : String) (h : isIdentifier s = true) :
    isIdentifier (lowerFirst s) = true := by
  obtain ⟨c, cs, hs, hc⟩ := exists_ascii_cons_of_isIdentifier s h
  simp only [isIdentifier, hs, Bool.and_eq_true] at h
  rw [isIdentifier, toList_lowerFirst s c cs hs hc]
  simp [startsIdentifier_toLower c h.1, h.2]

namespace Table

/-- No two columns of an accepted table lead to one field. -/
theorem nodup_fieldName (t : Table) (h : t.checkNames = .ok ()) :
    (t.columns.map (·.fieldName)).Nodup := by
  have hid := isIdentifier_entityName t h
  simp only [checkNames, hid, if_true] at h
  exact ((checkFields_eq_ok_iff [] t.columns).mp h).2

/-- The field names of an accepted table are made of characters of identifiers. -/
theorem arePlain_fieldName (t : Table) (h : t.checkNames = .ok ()) (c : Column)
    (hc : c ∈ t.columns) : Naming.ArePlain c.fieldName.toList :=
  Naming.arePlain_of_isIdentifier _ (t.isIdentifier_fieldName h c hc)

theorem ascii_fieldName (t : Table) (h : t.checkNames = .ok ()) (c : Column)
    (hc : c ∈ t.columns) : Text.IsAscii c.fieldName :=
  Naming.isAscii_of_arePlain _ (t.arePlain_fieldName h c hc)

theorem map_name_fields (t : Table) : t.fields.map (·.name) = t.columns.map (·.fieldName) := by
  simp [fields, Field.ofColumn]

/-- No field is called as the identity is, in whatever case. -/
theorem not_identity_fieldName (t : Table) (c : Column) (hc : c ∈ t.columns) :
    Text.sameIgnoringAsciiCase c.fieldName identityColumn = false :=
  t.no_identity c hc

end Table
end CrudLayer
