import Mathlib
import CrudLayer.Proofs.Accepted
import CrudLayer.Proofs.StoredNames

/-!
When two columns are stored under one name. A stored name keeps of a field's name its letters, but
not their case, and the places where a capital follows a small letter. So two fields share a stored
name exactly if they agree in both, and the check of a table's names does not keep them from it.
-/
namespace CrudLayer

namespace Naming

/-- For each character but the first, whether it is a capital that follows a small letter. -/
def humps (cs : List Char) : List Bool :=
  List.zipWith (fun a b => a.isLower && b.isUpper) cs cs.tail

/-- The names differ in the case of letters at most, and have their humps at the same places. -/
def SameShape (s t : String) : Prop :=
  Text.sameIgnoringAsciiCase s t = true ∧ humps s.toList = humps t.toList

instance (s t : String) : Decidable (SameShape s t) :=
  inferInstanceAs (Decidable (_ ∧ _))

theorem toLower_ne_underscore (c : Char) (h : c ≠ '_') : c.toLower ≠ '_' := by
  intro heq
  by_cases hc : c.isUpper = true
  · have halpha : c.toLower.isAlpha = true := by
      rw [Char.isAlpha_toLower_eq_isAlpha]
      simp [Char.isAlpha, hc]
    rw [heq] at halpha
    exact absurd halpha (by decide)
  · exact h (by rwa [Char.toLower_eq_of_not_isUpper hc] at heq)

theorem separate_false_cons (c : Char) (cs : List Char) :
    separate false (c :: cs) = c :: separate c.isLower cs := by
  simp [separate]

theorem separate_cons_ne_nil (afterSmall : Bool) (c : Char) (cs : List Char) :
    separate afterSmall (c :: cs) ≠ [] := by
  unfold separate
  split <;> simp

/-- What follows two characters agrees in its separated lower case form exactly if the letters do
and the underscores go before the same ones. -/
theorem separate_lower_eq_iff (a b : Char) (as bs : List Char) (ha : '_' ∉ as) (hb : '_' ∉ bs) :
    (separate a.isLower as).map Char.toLower = (separate b.isLower bs).map Char.toLower ↔
      as.map Char.toLower = bs.map Char.toLower ∧ humps (a :: as) = humps (b :: bs) := by
  induction as generalizing a b bs with
  | nil =>
    cases bs with
    | nil => simp [separate, humps]
    | cons d bs =>
      have hne := separate_cons_ne_nil b.isLower d bs
      have hnil : separate a.isLower [] = [] := rfl
      simp [hnil, hne]
  | cons c as ih =>
    cases bs with
    | nil =>
      have hne := separate_cons_ne_nil a.isLower c as
      have hnil : separate b.isLower [] = [] := rfl
      simp [hnil, hne]
    | cons d bs =>
      simp only [List.mem_cons, not_or] at ha hb
      have hc := toLower_ne_underscore c (Ne.symm ha.1)
      have hd := toLower_ne_underscore d (Ne.symm hb.1)
      have hunder : Char.toLower '_' = '_' := rfl
      have hrest := ih c d bs ha.2 hb.2
      have hhumps : ∀ (x y : Char) (ys : List Char),
          humps (x :: y :: ys) = (x.isLower && y.isUpper) :: humps (y :: ys) := fun _ _ _ => rfl
      rw [hhumps, hhumps]
      -- An underscore in one form only stands against a character that is none.
      cases hac : a.isLower && c.isUpper <;> cases hbd : b.isLower && d.isUpper
      · simp [separate, hac, hbd, hrest, and_assoc]
      · simp [separate, hac, hbd, hunder, hc]
      · simp [separate, hac, hbd, hunder, Ne.symm hd]
      · simp [separate, hac, hbd, hrest, and_assoc]

/-- Stored names are the same exactly if the names have the same shape. -/
theorem camelToSnake_eq_iff (s t : String) (hs : ArePlain s.toList) (ht : ArePlain t.toList)
    (hs' : '_' ∉ s.toList) (ht' : '_' ∉ t.toList) :
    camelToSnake s = camelToSnake t ↔ SameShape s t := by
  rw [camelToSnake_ascii s (isAscii_of_arePlain s hs),
    camelToSnake_ascii t (isAscii_of_arePlain t ht), String.ofList_inj, SameShape,
    Text.sameIgnoringAsciiCase, beq_iff_eq]
  cases hsl : s.toList with
  | nil =>
    cases htl : t.toList with
    | nil => simp
    | cons d ds => simp [separate_false_cons, show separate false [] = [] from rfl]
  | cons c cs =>
    cases htl : t.toList with
    | nil => simp [separate_false_cons, show separate false [] = [] from rfl]
    | cons d ds =>
      rw [hsl] at hs'
      rw [htl] at ht'
      -- Before the first character there is never an underscore.
      have hrest := separate_lower_eq_iff c d cs ds (fun h => hs' (by simp [h]))
        fun h => ht' (by simp [h])
      rw [separate_false_cons, separate_false_cons, List.map_cons, List.map_cons, List.cons_eq_cons,
        hrest, List.map_cons, List.map_cons, List.cons_eq_cons, and_assoc]

end Naming

namespace Table

/-- Columns of an accepted table share a stored name exactly if their fields have the same shape. -/
theorem columnName_eq_iff (t : Table) (h : t.checkNames = .ok ()) (a b : Column)
    (ha : a ∈ t.columns) (hb : b ∈ t.columns) :
    (Field.ofColumn a).columnName = (Field.ofColumn b).columnName ↔
      Naming.SameShape a.fieldName b.fieldName :=
  Naming.camelToSnake_eq_iff a.fieldName b.fieldName (t.arePlain_fieldName h a ha)
    (t.arePlain_fieldName h b hb) (Naming.no_underscore_snakeToCamel a.name)
    (Naming.no_underscore_snakeToCamel b.name)

/-- The name of the identity is left to the identity. -/
theorem columnName_ne_identity (t : Table) (h : t.checkNames = .ok ()) (c : Column)
    (hc : c ∈ t.columns) : (Field.ofColumn c).columnName ≠ identityColumn := by
  intro heq
  have hid : identityColumn = Naming.camelToSnake identityColumn := by decide
  have hplain : Naming.ArePlain identityColumn.toList :=
    Naming.arePlain_of_isIdentifier identityColumn (by decide)
  rw [hid] at heq
  have hshape := (Naming.camelToSnake_eq_iff c.fieldName identityColumn
    (t.arePlain_fieldName h c hc) hplain (Naming.no_underscore_snakeToCamel c.name)
    (by decide)).mp heq
  have hsame : Text.sameIgnoringAsciiCase c.fieldName identityColumn = true := hshape.1
  rw [t.not_identity_fieldName c hc] at hsame
  exact absurd hsame (by decide)

end Table

namespace Entity

/-- What an entity says its columns are stored under is never the identity's name, and no name is
there twice exactly if no two fields have one shape. -/
theorem stored_names_apart_iff (t : Table) (package : String) (path : Path) (c : Config)
    (ht : t.checkNames = .ok ()) (hc : Config.validate package path = .ok c) :
    storedNames (ArtifactKind.entity.content (Context.ofTable t c)) =
      t.fields.map (·.columnName) ∧
    identityColumn ∉ storedNames (ArtifactKind.entity.content (Context.ofTable t c)) ∧
    ((storedNames (ArtifactKind.entity.content (Context.ofTable t c))).Nodup ↔
      t.columns.Pairwise fun a b => ¬ Naming.SameShape a.fieldName b.fieldName) := by
  obtain ⟨rfl, hpackage, -⟩ := Config.validate_eq_ok package path c hc
  have hstored : storedNames (ArtifactKind.entity.content (Context.ofTable t ⟨package, path⟩)) =
      t.fields.map (·.columnName) :=
    storedNames_content _ (Context.isInert_ofTable t ⟨package, path⟩ ht hpackage)
  have hcolumns : t.fields.map (·.columnName) =
      t.columns.map fun col => (Field.ofColumn col).columnName := by
    simp [Table.fields]
  refine ⟨hstored, ?_, ?_⟩
  · rw [hstored, hcolumns, List.mem_map]
    rintro ⟨col, hcol, hid⟩
    exact t.columnName_ne_identity ht col hcol hid
  · rw [hstored, hcolumns, List.Nodup, List.pairwise_map]
    apply List.Pairwise.iff_of_mem
    intro a b ha hb
    rw [Ne, t.columnName_eq_iff ht a b ha hb]

def pairTable (first second : String) : Table :=
  Table.ofColumns "item" [⟨first, "int"⟩, ⟨second, "int"⟩]

theorem stored_names_apart_orderItem :
    (storedNames (ArtifactKind.entity.content
      (Context.ofTable (pairTable "order_id" "orderid") ⟨"pkg", ⟨"out"⟩⟩))).Nodup :=
  (stored_names_apart_iff (pairTable "order_id" "orderid") "pkg" ⟨"out"⟩ ⟨"pkg", ⟨"out"⟩⟩
    (by decide) rfl).2.2.mpr (by decide)

/-- Two names that the check keeps apart and that differ in the case of letters only are stored as
one, since runs of capitals are not taken apart. -/
theorem stored_names_collide :
    (pairTable "URL" "url").checkNames = .ok () ∧
    Config.validate "pkg" ⟨"out"⟩ = .ok ⟨"pkg", ⟨"out"⟩⟩ ∧
    (pairTable "URL" "url").columns.map (·.fieldName) = ["URL", "url"] ∧
    storedNames (ArtifactKind.entity.content
      (Context.ofTable (pairTable "URL" "url") ⟨"pkg", ⟨"out"⟩⟩)) = ["url", "url"] := by
  have hnames : (pairTable "URL" "url").checkNames = .ok () := by decide
  have hpackage : Config.checkPackage "pkg" = .ok () := by decide
  refine ⟨hnames, rfl, by decide, ?_⟩
  rw [storedNames_content _ (Context.isInert_ofTable _ ⟨"pkg", ⟨"out"⟩⟩ hnames hpackage)]
  decide

end Entity
end CrudLayer
