import Mathlib
import CrudLayer.Proofs.ClassTexts
import CrudLayer.Proofs.Filling
import CrudLayer.Proofs.StoredApart

namespace CrudLayer

structure IsSafeName (s : String) : Prop where
  ne_empty : s ≠ ""
  inert : IsInertText s
  undotted : '.' ∉ s.toList

theorem isSafeName_of_isPlainWord (s : String) (h : Members.IsPlainWord s) : IsSafeName s where
  ne_empty := h.ne_empty
  inert := isInertText_of_arePlain s h.plain
  undotted := h.plain.not_mem '.' (by decide)

/-- A letter beyond ASCII stands for itself until it is filled in. -/
theorem isSafeName_letter {s : String} {c : Char} (hs : s = String.ofList [c])
    (hc : 0x80 ≤ c.toNat) : IsSafeName s := by
  have hlist : s.toList = [c] := by rw [hs, String.toList_ofList]
  refine ⟨?_, ?_, ?_⟩
  · rintro rfl
    simp at hlist
  · intro d hd hascii
    rw [hlist, List.mem_singleton] at hd
    rw [hd] at hascii
    omega
  · rw [hlist, List.mem_singleton]
    rintro rfl
    exact absurd hc (by decide)

/-- The name of an accepted table may be filled in. -/
theorem Table.isSafeName_name (t : Table) (ht : t.checkNames = .ok ()) : IsSafeName t.name where
  ne_empty := by
    intro hempty
    have hid := t.isIdentifier_entityName ht
    rw [Table.entityName, hempty] at hid
    exact absurd hid (by decide)
  inert := fun c hc hascii => Or.inl (t.arePlainInAscii_name ht c hc hascii)
  undotted := by
    intro hdot
    have hplain := t.arePlainInAscii_name ht '.' hdot (by decide)
    exact absurd hplain (by decide)

theorem Context.isSafeName_entityVariable (t : Table) (c : Config) (ht : t.checkNames = .ok ()) :
    IsSafeName (ofTable t c).entityVariable := by
  apply isSafeName_of_isPlainWord
  apply Members.isPlainWord_of_isIdentifier
  exact Naming.isIdentifier_lowerFirst _ (t.isIdentifier_entityName ht)

theorem isSafeName_of_mem_fields (t : Table) (ht : t.checkNames = .ok ()) (f : Field)
    (hf : f ∈ t.fields) : IsSafeName f.name ∧ IsSafeName f.accessor ∧ IsSafeName f.columnName := by
  obtain ⟨hname, haccessor⟩ := Members.arePlainFields_ofTable t ht f hf
  refine ⟨isSafeName_of_isPlainWord _ hname, isSafeName_of_isPlainWord _ haccessor, ?_⟩
  obtain ⟨col, hcol, rfl⟩ := List.mem_map.mp hf
  have hplain := t.arePlain_fieldName ht col hcol
  apply isSafeName_of_isPlainWord
  refine ⟨Naming.arePlain_camelToSnake _ hplain, ?_⟩
  obtain ⟨d, ds, hds⟩ :=
    Naming.exists_cons_of_isIdentifier _ (t.isIdentifier_fieldName ht col hcol)
  have hne := Naming.separate_cons_ne_nil false d ds
  have hsnake := Naming.camelToSnake_ascii _ (t.ascii_fieldName ht col hcol)
  rw [hds] at hsnake
  intro hempty
  have hlist := congrArg String.toList (hsnake.symm.trans hempty)
  exact hne (by simpa using hlist)

namespace Filling

/-- The names of an accepted table may be filled in. -/
theorem isSafe_ofTable (t : Table) (c : Config) (ht : t.checkNames = .ok ())
    (hc : Config.checkPackage c.basePackage = .ok ()) (f : Field) (hname : IsSafeName f.name)
    (haccessor : IsSafeName f.accessor) (hcolumn : IsSafeName f.columnName) :
    (Filling.mk (Context.ofTable t c) f).IsSafe := by
  have hinert := Config.isInertText_of_checkPackage c.basePackage hc
  have hpackage : c.basePackage ≠ "" := by
    intro hempty
    rw [hempty] at hc
    exact absurd hc (by decide)
  have htable := t.isSafeName_name ht
  have hentity : IsSafeName t.entityName := isSafeName_of_isPlainWord _
    (Members.isPlainWord_of_isIdentifier _ (t.isIdentifier_entityName ht))
  have hvariable := Context.isSafeName_entityVariable t c ht
  -- The base package alone may have dots in it. All else are names of the table.
  have hletters : ∀ p ∈ (Filling.mk (Context.ofTable t c) f).letters,
      p = ('π', c.basePackage) ∨ IsSafeName p.2 := by
    have hfixed : ('π', (Context.ofTable t c).basePackage) = ('π', c.basePackage) := rfl
    simp only [letters, List.forall_mem_cons, hfixed, true_or, true_and]
    exact ⟨Or.inr htable, Or.inr hentity, Or.inr hvariable, Or.inr hname, Or.inr haccessor,
      Or.inr hcolumn, by simp⟩
  refine ⟨?_, ?_, ?_⟩
  · intro p hp
    rcases hletters p hp with rfl | hsafe
    · exact hpackage
    · exact hsafe.ne_empty
  · intro p hp
    rcases hletters p hp with rfl | hsafe
    · exact hinert
    · exact hsafe.inert
  · intro p hp hne
    rcases hletters p hp with rfl | hsafe
    · exact absurd rfl hne
    · exact hsafe.undotted

/-- So they may where no field has names of its own. -/
theorem isSafe_withoutField (t : Table) (c : Config) (ht : t.checkNames = .ok ())
    (hc : Config.checkPackage c.basePackage = .ok ()) :
    (Filling.mk (Context.ofTable t c) (Field.form .text)).IsSafe := by
  apply isSafe_ofTable t c ht hc
  · exact isSafeName_letter (c := 'φ') rfl (by decide)
  · exact isSafeName_letter (c := 'Φ') rfl (by decide)
  · exact isSafeName_letter (c := 'χ') rfl (by decide)

/-- So may all names of a context together with those of a field. -/
theorem isSafe_withField (t : Table) (c : Config) (ht : t.checkNames = .ok ())
    (hc : Config.checkPackage c.basePackage = .ok ()) (f : Field) (hf : f ∈ t.fields) :
    (Filling.mk (Context.ofTable t c) f).IsSafe := by
  obtain ⟨hname, haccessor, hcolumn⟩ := isSafeName_of_mem_fields t ht f hf
  exact isSafe_ofTable t c ht hc f hname haccessor hcolumn

end Filling
end CrudLayer
