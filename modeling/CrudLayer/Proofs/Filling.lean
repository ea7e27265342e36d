import Mathlib
import CrudLayer.Artifact.Content
import CrudLayer.Proofs.Accepted
import CrudLayer.Proofs.Lines

/-!
Generated files as forms that are filled in. The form of a file is the file itself under names that
are single letters beyond ASCII. No file has such a letter of itself, so a file under other names is
its form with these filled in for the letters.
-/
namespace CrudLayer

/-- The names that letters stand for: those of a context, and those of a field. -/
structure Filling where
  context : Context
  field : Field

def Field.form (type : SemanticType) : Field := ⟨"φ", "Φ", "χ", type⟩

/-- The context whose names are letters to be filled in, with fields of these types. -/
def Context.form (types : List SemanticType) : Context := ⟨"π", "τ", "Ω", types.map Field.form⟩

namespace Filling

def letters (σ : Filling) : List (Char × String) := [
  ('π', σ.context.basePackage), ('τ', σ.context.tableName), ('Ω', σ.context.entityName),
  ('ω', σ.context.entityVariable), ('φ', σ.field.name), ('Φ', σ.field.accessor),
  ('χ', σ.field.columnName)]

def spelling (σ : Filling) (c : Char) : List Char :=
  match σ.letters.lookup c with
  | some name => name.toList
  | none => [c]

def fill (σ : Filling) (s : String) : String := String.ofList (s.toList.flatMap σ.spelling)

/-- A character is one of the letters, or it stays. -/
theorem spelling_cases (σ : Filling) (c : Char) :
    (∃ name, (c, name) ∈ σ.letters ∧ σ.spelling c = name.toList) ∨ σ.spelling c = [c] := by
  unfold spelling
  split
  · rename_i name hname
    obtain ⟨before, after, hlist, -⟩ := List.lookup_eq_some_iff.mp hname
    refine Or.inl ⟨name, ?_, rfl⟩
    rw [hlist]
    simp
  · exact Or.inr rfl

theorem spelling_ascii (σ : Filling) (c : Char) (h : c.toNat < 0x80) : σ.spelling c = [c] := by
  rcases σ.spelling_cases c with ⟨name, hmem, -⟩ | heq
  · -- No letter to be filled in is an ASCII character.
    exfalso
    simp only [letters, List.mem_cons, Prod.mk.injEq, List.not_mem_nil, or_false] at hmem
    rcases hmem with h' | h' | h' | h' | h' | h' | h' <;>
    · rw [h'.1] at h
      exact absurd h (by decide)
  · exact heq

theorem spelling_entity (σ : Filling) : σ.spelling 'Ω' = σ.context.entityName.toList := by
  simp [spelling, letters, List.lookup]

theorem spelling_variable (σ : Filling) : σ.spelling 'ω' = σ.context.entityVariable.toList := by
  simp [spelling, letters, List.lookup]

theorem spelling_field (σ : Filling) : σ.spelling 'φ' = σ.field.name.toList := by
  simp [spelling, letters, List.lookup]

theorem toList_fill (σ : Filling) (s : String) :
    (σ.fill s).toList = s.toList.flatMap σ.spelling := String.toList_ofList

theorem fill_append (σ : Filling) (s t : String) : σ.fill (s ++ t) = σ.fill s ++ σ.fill t := by
  simp [fill]

theorem flatMap_spelling_ascii (σ : Filling) (cs : List Char)
    (h : cs.all (·.toNat < 0x80) = true) : cs.flatMap σ.spelling = cs := by
  have hself : cs.flatMap σ.spelling = cs.flatMap fun c => [c] := by
    refine List.flatMap_congr fun c hc => ?_
    exact σ.spelling_ascii c (by simpa using List.all_eq_true.mp h c hc)
  rw [hself, List.flatMap_singleton']

/-- The characters of a fixed text are put in its place first, so that they need not be decoded. -/
theorem fill_fixed (σ : Filling) (s : String) {cs : List Char} (hs : s = String.ofList cs)
    (h : cs.all (·.toNat < 0x80) = true) : σ.fill s = s := by
  rw [fill, hs, String.toList_ofList, σ.flatMap_spelling_ascii cs h]

theorem fill_intercalate (σ : Filling) (separator : String) (h : σ.fill separator = separator)
    (ls : List String) :
    σ.fill (separator.intercalate ls) = separator.intercalate (ls.map σ.fill) := by
  induction ls with
  | nil => rfl
  | cons l ls ih =>
    cases ls with
    | nil => simp
    | cons next ls =>
      rw [String.intercalate_cons_cons, fill_append, fill_append, h, ih]
      simp [String.intercalate_cons_cons]

section Names

variable (σ : Filling) (types : List SemanticType) (k : ArtifactKind)

theorem fill_basePackage :
    σ.fill (Context.form types).basePackage = σ.context.basePackage := by
  simp [fill, Context.form, spelling, letters]

theorem fill_tableName : σ.fill (Context.form types).tableName = σ.context.tableName := by
  simp [fill, Context.form, spelling, letters, List.lookup]

theorem fill_entityVariable :
    σ.fill (Context.form types).entityVariable = σ.context.entityVariable := by
  have hform : (Context.form types).entityVariable = "ω" :=
    (by decide : Naming.lowerFirst "Ω" = "ω")
  simp [fill, hform, spelling, letters, List.lookup]

/-- Each type name is its form with the entity filled in. -/
theorem fill_typeName : σ.fill ((Context.form types).typeName k) = σ.context.typeName k := by
  have hentity : σ.fill (Context.form types).entityName = σ.context.entityName := by
    simp [fill, Context.form, spelling, letters, List.lookup]
  have hsuffix : σ.fill k.suffix = k.suffix := by
    cases k <;> exact σ.fill_fixed _ rfl (by decide)
  rw [Context.typeName, ArtifactKind.typeName, fill_append, hentity, hsuffix]
  rfl

theorem fill_package : σ.fill ((Context.form types).package k) = σ.context.package k := by
  have hdot : σ.fill "." = "." := σ.fill_fixed _ rfl (by decide)
  have hlayer : k.layer.map σ.fill = k.layer := by
    cases k <;>
      simp (disch := first | with_reducible rfl | decide) only [ArtifactKind.layer, List.map_cons,
        List.map_nil, fill_fixed]
  rw [Context.package, ArtifactKind.package, fill_append, fill_append, fill_basePackage,
    fill_intercalate _ _ hdot, hdot, hlayer]
  rfl

theorem fill_qualifiedName :
    σ.fill ((Context.form types).qualifiedName k) = σ.context.qualifiedName k := by
  rw [Context.qualifiedName, fill_append, fill_append, fill_package, fill_typeName,
    fill_fixed _ "." rfl (by decide)]
  rfl

theorem fill_dtoVariable :
    σ.fill (Context.form types).dtoVariable = σ.context.dtoVariable := by
  rw [Context.dtoVariable, fill_append, fill_entityVariable, fill_fixed _ "DTO" rfl (by decide)]
  rfl

theorem fill_serviceVariable :
    σ.fill (Context.form types).serviceVariable = σ.context.serviceVariable := by
  rw [Context.serviceVariable, fill_append, fill_entityVariable,
    fill_fixed _ "Service" rfl (by decide)]
  rfl

theorem fill_repositoryVariable :
    σ.fill (Context.form types).repositoryVariable = σ.context.repositoryVariable := by
  rw [Context.repositoryVariable, fill_append, fill_entityVariable,
    fill_fixed _ "Repository" rfl (by decide)]
  rfl

theorem fill_mapperVariable :
    σ.fill (Context.form types).mapperVariable = σ.context.mapperVariable := by
  rw [Context.mapperVariable, fill_append, fill_entityVariable,
    fill_fixed _ "Mapper" rfl (by decide)]
  rfl

theorem fill_apiPath : σ.fill (Context.form types).apiPath = σ.context.apiPath := by
  rw [Context.apiPath, fill_append, fill_entityVariable, fill_fixed _ "/api/" rfl (by decide)]
  rfl

theorem fill_fieldName (s : SemanticType) : σ.fill (Field.form s).name = σ.field.name := by
  simp [fill, Field.form, spelling, letters, List.lookup]

theorem fill_accessor (s : SemanticType) : σ.fill (Field.form s).accessor = σ.field.accessor := by
  simp [fill, Field.form, spelling, letters, List.lookup]

theorem fill_columnName (s : SemanticType) :
    σ.fill (Field.form s).columnName = σ.field.columnName := by
  simp [fill, Field.form, spelling, letters, List.lookup]

end Names

/-- The names may stand anywhere in a file without ending what they stand in, none is empty, and
none but that of the package has a dot in it. -/
structure IsSafe (σ : Filling) : Prop where
  ne_empty : ∀ p ∈ σ.letters, p.2 ≠ ""
  inert : ∀ p ∈ σ.letters, IsInertText p.2
  undotted : ∀ p ∈ σ.letters, p.1 ≠ 'π' → '.' ∉ p.2.toList

namespace IsSafe

variable {σ : Filling} (h : σ.IsSafe)

include h in
/-- Nothing disappears when names are filled in. -/
theorem spelling_ne_nil (c : Char) : σ.spelling c ≠ [] := by
  rcases σ.spelling_cases c with ⟨name, hmem, heq⟩ | heq
  · rw [heq]
    simpa using h.ne_empty _ hmem
  · simp [heq]

include h in
/-- What is filled in for a character is the character, or inert. -/
theorem isInert_of_mem_spelling (c d : Char) (hd : d ∈ σ.spelling c) :
    σ.spelling c = [c] ∨ IsInert d := by
  rcases σ.spelling_cases c with ⟨name, hmem, heq⟩ | heq
  · rw [heq] at hd
    exact Or.inr (h.inert _ hmem d hd)
  · exact Or.inl heq

open Listing

include h in
theorem isEmpty_fill (s : String) : (σ.fill s).isEmpty = s.isEmpty := by
  have hnil : σ.fill s = "" ↔ s = "" := by
    rw [← String.toList_inj, ← String.toList_inj, toList_fill, String.toList_empty,
      List.flatMap_eq_nil_iff]
    constructor
    · intro hempty
      rw [List.eq_nil_iff_forall_not_mem]
      exact fun c hc => h.spelling_ne_nil c (hempty c hc)
    · intro hempty c hc
      simp [hempty] at hc
  rw [Bool.eq_iff_iff, String.isEmpty_iff, String.isEmpty_iff, hnil]

include h in
theorem map_fill_indented (ls : Listing) :
    (indented ls).map σ.fill = indented (ls.map σ.fill) := by
  have hstep : σ.fill "    " = "    " := σ.fill_fixed _ rfl (by decide)
  simp only [indented, List.map_map]
  apply List.map_congr_left
  intro l _
  simp only [Function.comp_apply, h.isEmpty_fill, apply_ite σ.fill, fill_append, hstep]

include h in
theorem map_fill_braced (head : String) (body : Listing) (tail : String) :
    (braced head body tail).map σ.fill =
      braced (σ.fill head) (body.map σ.fill) (σ.fill tail) := by
  have hopen : σ.fill " \x7b" = " \x7b" := σ.fill_fixed _ rfl (by decide)
  have hclose : σ.fill "\x7d" = "\x7d" := σ.fill_fixed _ rfl (by decide)
  simp [braced, fill_append, h.map_fill_indented, hopen, hclose]

include h in
theorem map_fill_parenthesized (head : String) (parameters body : Listing) :
    (parenthesized head parameters body).map σ.fill =
      parenthesized (σ.fill head) (parameters.map σ.fill) (body.map σ.fill) := by
  have hopen : σ.fill "(" = "(" := σ.fill_fixed _ rfl (by decide)
  have hclose : σ.fill ")" = ")" := σ.fill_fixed _ rfl (by decide)
  have hblank : σ.fill "" = "" := rfl
  simp [parenthesized, fill_append, h.map_fill_indented, h.map_fill_braced, hopen, hclose, hblank]

include h in
theorem map_fill_continued (head : String) (rest : Listing) :
    (continued head rest).map σ.fill = continued (σ.fill head) (rest.map σ.fill) := by
  simp [continued, h.map_fill_indented]

include h in
theorem map_fill_documentation (ls : Listing) :
    (documentation ls).map σ.fill = documentation (ls.map σ.fill) := by
  have hstar : σ.fill " *" = " *" := σ.fill_fixed _ rfl (by decide)
  have hstars : σ.fill " * " = " * " := σ.fill_fixed _ rfl (by decide)
  have hopen : σ.fill "/**" = "/**" := σ.fill_fixed _ rfl (by decide)
  have hclose : σ.fill " */" = " */" := σ.fill_fixed _ rfl (by decide)
  have hline : (ls.map fun l => if l.isEmpty then " *" else " * " ++ l).map σ.fill =
      (ls.map σ.fill).map fun l => if l.isEmpty then " *" else " * " ++ l := by
    simp only [List.map_map]
    apply List.map_congr_left
    intro l _
    simp only [Function.comp_apply, h.isEmpty_fill, apply_ite σ.fill, fill_append, hstar, hstars]
  simp only [documentation, List.map_append, hline]
  simp [hopen, hclose]

end IsSafe

section Listings

open Listing

variable (σ : Filling)

theorem map_fill_apart (parts : List Listing) :
    (apart parts).map σ.fill = apart (parts.map (·.map σ.fill)) := by
  have hblank : σ.fill "" = "" := rfl
  induction parts with
  | nil => rfl
  | cons p parts ih =>
    cases parts with
    | nil => simp [apart]
    | cons next parts =>
      rw [apart_cons_cons, List.map_append, List.map_append, ih]
      simp [apart_cons_cons, hblank]

/-- A file is filled in part by part. -/
theorem map_fill_file (package : String) (imports : List String) (declaration : Listing) :
    (file package imports declaration).map σ.fill =
      file (σ.fill package) (imports.map σ.fill) (declaration.map σ.fill) := by
  have hpackage : σ.fill "package " = "package " := σ.fill_fixed _ rfl (by decide)
  have himport : σ.fill "import " = "import " := σ.fill_fixed _ rfl (by decide)
  have hend : σ.fill ";" = ";" := σ.fill_fixed _ rfl (by decide)
  have hblank : σ.fill "" = "" := rfl
  have himports : (imports.map fun i => "import " ++ i ++ ";").map σ.fill =
      (imports.map σ.fill).map fun i => "import " ++ i ++ ";" := by
    simp [fill_append, himport, hend]
  simp only [file, List.map_append, himports]
  simp [fill_append, hpackage, hend, hblank]

end Listings

end Filling
end CrudLayer
