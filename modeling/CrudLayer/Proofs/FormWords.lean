import Mathlib
import CrudLayer.Proofs.FormCharacters
import CrudLayer.Proofs.SafeNames

namespace CrudLayer

open Listing

/-- The fixed types of a kind's file whose names end as that of a generated type does. -/
def ArtifactKind.alikeTypes : ArtifactKind → List (List Char)
  | repository => ["JpaRepository".toList]
  | _ => []

/-- A fixed word that begins with a capital. It ends as the name of a generated type does only if it
is no more than that end, or one of those known. -/
def isFixedType (k : ArtifactKind) (w : List Char) : Bool :=
  w.all (·.toNat < 0x80) && (k.alikeTypes.contains w || ArtifactKind.all.all fun j =>
    j == .entity || !j.suffix.toList.isSuffixOf w || j.suffix.toList == w)

/-- The words of the code of a form: fixed ones, the names of generated types, names that begin with
that of a variable, and names of fields. -/
def isFormWord (k : ArtifactKind) (w : List Char) : Bool :=
  match w with
  | [] => true
  | c :: rest =>
    if c.isUpper then isFixedType k w
    else if c == 'Ω' then ArtifactKind.all.any (·.suffix.toList == rest)
    else decide (c.toNat < 0x80) || c == 'ω' || w == ['φ']

def isFormLine (cs : List Char) : Bool := isComment cs || (pieces cs).all (·.all (· != 'π'))

/-- No line of a form holds a line end. -/
theorem unbroken_form (k : ArtifactKind) : Unbroken (k.listing (Context.form [])) := by
  have hall : ∀ cs ∈ characters (k.listing (Context.form [])), '\n' ∉ cs := by
    rw [characters_form]
    cases k <;> decide +kernel
  intro l hl
  exact hall l.toList (List.mem_map_of_mem hl)

/-- No line of code in a form has the package in it. -/
theorem all_isFormLine_form (k : ArtifactKind) :
    (declarationLines (characters (k.listing (Context.form [])))).all isFormLine = true := by
  rw [characters_form]
  cases k <;> decide

/-- The words of each form are of the kinds that are known. -/
theorem all_isFormWord_form (k : ArtifactKind) :
    (fileWords (k.listing (Context.form []))).all (isFormWord k) = true := by
  rw [fileWords, characters_form]
  cases k <;> decide +kernel

theorem all_isFormLine_members (k : ArtifactKind) (type : SemanticType) :
    (characters (k.members (Field.form type))).all isFormLine = true := by
  rw [characters_members]
  cases k <;> cases type <;> decide

theorem all_isFormWord_members (k : ArtifactKind) (type : SemanticType) :
    (wordsIn (k.members (Field.form type))).all (isFormWord k) = true := by
  rw [wordsIn, characters_members]
  cases k <;> cases type <;> decide

end CrudLayer
