import Mathlib
import CrudLayer.Proofs.Imports

namespace CrudLayer

open Listing

theorem Listing.apart_cons (p : Listing) (parts : List Listing) :
    apart (p :: parts) = p ++ parts.flatMap ("" :: ·) := by
  induction parts generalizing p with
  | nil => simp [apart]
  | cons next parts ih =>
    rw [apart_cons_cons, ih, List.flatMap_cons, List.append_assoc]
    rfl

def Field.identity : Field := ⟨identityColumn, "Id", identityColumn, .longInteger⟩

def Members.accessorLines (f : Field) : Listing := (accessors f).flatMap ("" :: ·)

def Members.getterHead (f : Field) : String :=
  "public " ++ f.type.javaType ++ " get" ++ f.accessor ++ "() \x7b"

def Members.setterHead (f : Field) : String :=
  "public void set" ++ f.accessor ++ "(" ++ f.type.javaType ++ " " ++ f.name ++ ") \x7b"

theorem Members.exists_getterHead (f : Field) : ∃ rest, getterHead f = "public " ++ rest := by
  unfold getterHead
  simp only [String.append_assoc]
  exact ⟨_, rfl⟩

theorem Members.exists_setterHead (f : Field) :
    ∃ rest, setterHead f = "public void set" ++ rest := by
  unfold setterHead
  simp only [String.append_assoc]
  exact ⟨_, rfl⟩

theorem Members.accessorLines_eq (f : Field) :
    accessorLines f = [
      "", getterHead f, "    " ++ ("return " ++ f.name ++ ";"), "\x7d",
      "", setterHead f, "    " ++ ("this." ++ f.name ++ " = " ++ f.name ++ ";"), "\x7d"] := by
  have hgetter : getterHead f =
      "public " ++ f.type.javaType ++ " get" ++ f.accessor ++ "()" ++ " \x7b" := by
    rw [String.append_assoc]
    rfl
  have hsetter : setterHead f =
      "public void set" ++ f.accessor ++ "(" ++ f.type.javaType ++ " " ++ f.name ++ ")" ++
        " \x7b" := by
    rw [String.append_assoc]
    rfl
  have hclose : ("\x7d" ++ "" : String) = "\x7d" := rfl
  have hreturn : indented ["return " ++ f.name ++ ";"] =
      ["    " ++ ("return " ++ f.name ++ ";")] := by
    simp [indented]
  have hassign : indented ["this." ++ f.name ++ " = " ++ f.name ++ ";"] =
      ["    " ++ ("this." ++ f.name ++ " = " ++ f.name ++ ";")] := by
    simp [indented]
  rw [hgetter, hsetter]
  simp only [accessorLines, accessors, getter, setter, braced, hreturn, hassign, hclose]
  rfl

theorem Members.indented_accessorLines (f : Field) :
    indented (accessorLines f) = [
      "", "    " ++ getterHead f, "    " ++ ("    " ++ ("return " ++ f.name ++ ";")), "    \x7d",
      "", "    " ++ setterHead f,
      "    " ++ ("    " ++ ("this." ++ f.name ++ " = " ++ f.name ++ ";")), "    \x7d"] := by
  have hclose : ("    " ++ "\x7d" : String) = "    \x7d" := rfl
  have hgetter : getterHead f ≠ "" := by
    obtain ⟨rest, hrest⟩ := exists_getterHead f
    simp [hrest]
  have hsetter : setterHead f ≠ "" := by
    obtain ⟨rest, hrest⟩ := exists_setterHead f
    simp [hrest]
  rw [accessorLines_eq]
  simp [indented, hgetter, hsetter, hclose]

/-- The accessors are those of the identity and then of the fields, one after the other. -/
theorem Members.flatMap_allAccessors (ctx : Context) :
    (allAccessors ctx).flatMap ("" :: ·) =
      (Field.identity :: ctx.fields).flatMap accessorLines := by
  rw [allAccessors, List.flatMap_append, List.flatMap_assoc]
  rfl

def Listing.IsHeadingLine (line : String) : Prop :=
  line = "" ∨
    ∃ start ∈ ["package ", "import ", "/**", " *", "@Entity", "@Table", "public class "],
      ∃ rest, line = start ++ rest

theorem Listing.isHeadingLine_of_start (start rest : String)
    (h : start ∈ ["package ", "import ", "/**", " *", "@Entity", "@Table", "public class "]) :
    IsHeadingLine (start ++ rest) := Or.inr ⟨start, h, rest, rfl⟩

theorem Listing.isHeadingLine_documentation (ls : Listing) :
    ∀ l ∈ documentation ls, IsHeadingLine l := by
  intro l hl
  simp only [documentation, List.mem_append, List.mem_singleton, List.mem_map] at hl
  rcases hl with (rfl | ⟨text, -, rfl⟩) | rfl
  · exact isHeadingLine_of_start "/**" "" (by decide)
  · split
    · exact isHeadingLine_of_start " *" "" (by decide)
    · exact isHeadingLine_of_start " *" (" " ++ text) (by decide)
  · exact isHeadingLine_of_start " *" "/" (by decide)

/-- All lines of a file are headings if those of its declaration are. -/
theorem Listing.isHeadingLine_file (package : String) (imports : List String)
    (declaration : Listing) (h : ∀ l ∈ declaration, IsHeadingLine l) :
    ∀ l ∈ file package imports declaration, IsHeadingLine l := by
  intro l hl
  simp only [file, List.mem_append, List.mem_cons, List.not_mem_nil, or_false, List.mem_map,
    String.append_assoc] at hl
  rcases hl with (((rfl | rfl) | ⟨i, -, rfl⟩) | rfl) | hl
  · exact isHeadingLine_of_start "package " _ (by decide)
  · exact Or.inl rfl
  · exact isHeadingLine_of_start "import " _ (by decide)
  · exact Or.inl rfl
  · exact h l hl

namespace ArtifactKind

def opening : ArtifactKind → Listing
  | entity => [""] ++ Members.serialVersion ++ [""] ++ Entity.identity
  | transferObject => [""] ++ Members.serialVersion ++ ["", Members.identity]
  | _ => []

def fieldLines (k : ArtifactKind) (f : Field) : Listing :=
  match k with
  | entity => "" :: Entity.field f
  | transferObject => [Members.declaration f.type.javaType f.name]
  | _ => []

def body (k : ArtifactKind) (fields : List Field) : Listing :=
  k.opening ++ fields.flatMap k.fieldLines ++
    (Field.identity :: fields).flatMap Members.accessorLines

theorem indented_body (k : ArtifactKind) (fields : List Field) :
    indented (k.body fields) =
      indented k.opening ++ fields.flatMap (fun f => indented (k.fieldLines f)) ++
        (Field.identity :: fields).flatMap fun f => indented (Members.accessorLines f) := by
  simp only [body, indented, List.map_append, List.map_flatMap]

theorem indented_fieldLines_entity (f : Field) :
    indented (entity.fieldLines f) = [
      "", "    " ++ ("@Column(name = \"" ++ f.columnName ++ "\")"),
      "    " ++ Members.declaration f.type.javaType f.name] := by
  simp [fieldLines, Entity.field, indented, Members.declaration]

theorem indented_fieldLines_transferObject (f : Field) :
    indented (transferObject.fieldLines f) =
      ["    " ++ Members.declaration f.type.javaType f.name] := by
  simp [fieldLines, indented, Members.declaration]

/-- The members of an entity in the order in which they are listed. -/
theorem entity_body (ctx : Context) :
    [""] ++ apart ([Members.serialVersion, Entity.identity] ++ ctx.fields.map Entity.field ++
      Members.allAccessors ctx) = entity.body ctx.fields := by
  have hparts : [Members.serialVersion, Entity.identity] ++ ctx.fields.map Entity.field ++
      Members.allAccessors ctx = Members.serialVersion ::
        (Entity.identity :: (ctx.fields.map Entity.field ++ Members.allAccessors ctx)) := rfl
  have hfields : ctx.fields.flatMap entity.fieldLines =
      ctx.fields.flatMap fun f => "" :: Entity.field f := rfl
  rw [hparts, apart_cons, List.flatMap_cons, List.flatMap_append, List.flatMap_map,
    Members.flatMap_allAccessors, body, hfields]
  simp [opening]

/-- The members of a transfer object in the order in which they are listed. -/
theorem transferObject_body (ctx : Context) :
    [""] ++ apart ([Members.serialVersion, TransferObject.fields ctx] ++ Members.allAccessors ctx) =
      transferObject.body ctx.fields := by
  have hparts : [Members.serialVersion, TransferObject.fields ctx] ++ Members.allAccessors ctx =
      Members.serialVersion :: (TransferObject.fields ctx :: Members.allAccessors ctx) := rfl
  have hfields : ctx.fields.flatMap transferObject.fieldLines =
      ctx.fields.map fun f => Members.declaration f.type.javaType f.name :=
    List.flatMap_pure_eq_map _ _
  rw [hparts, apart_cons, List.flatMap_cons, Members.flatMap_allAccessors, body, hfields]
  simp [opening, TransferObject.fields]

/-- The heading of a class, whose fields are only in its body. -/
theorem exists_heading (k : ArtifactKind) (hk : k ∈ Members.holders) (ctx : Context) :
    ∃ heading, (∀ l ∈ heading, IsHeadingLine l) ∧
      ∀ fields, k.listing { ctx with fields := fields } =
        heading ++ indented (k.body fields) ++ ["\x7d"] := by
  -- The head of a class begins as no member does.
  have hclass : ∀ type : String,
      IsHeadingLine ("public class " ++ type ++ " implements Serializable" ++ " \x7b") := by
    intro type
    simp only [String.append_assoc]
    exact isHeadingLine_of_start "public class " _ (by decide)
  rcases Members.mem_holders_iff.mp hk with rfl | rfl
  · refine ⟨file (ctx.package .entity) ["jakarta.persistence.*", "java.io.Serializable"]
      (documentation ["A " ++ ctx.typeName .entity ++ "."] ++
        ["@Entity", "@Table(name = \"" ++ ctx.tableName ++ "\")"] ++
        ["public class " ++ ctx.typeName .entity ++ " implements Serializable" ++ " \x7b"]),
      isHeadingLine_file _ _ _ ?_, fun fields => ?_⟩
    · simp only [List.forall_mem_append, List.forall_mem_cons]
      refine ⟨⟨isHeadingLine_documentation _, ?_, ?_, by simp⟩, hclass _, by simp⟩
      · exact isHeadingLine_of_start "@Entity" "" (by decide)
      · rw [String.append_assoc]
        exact isHeadingLine_of_start "@Table" ("(name = \"" ++ (ctx.tableName ++ "\")")) (by decide)
    · rw [← entity_body { ctx with fields := fields }]
      simp only [listing, Entity.listing, file, braced, List.append_assoc]
      rfl
  · refine ⟨file (ctx.package .transferObject) ["java.io.Serializable"]
      (documentation ["A DTO for the " ++ link (ctx.qualifiedName .entity) ++ " entity."] ++
        ["public class " ++ ctx.typeName .transferObject ++ " implements Serializable" ++ " \x7b"]),
      isHeadingLine_file _ _ _ ?_, fun fields => ?_⟩
    · simp only [List.forall_mem_append, List.forall_mem_cons]
      exact ⟨isHeadingLine_documentation _, hclass _, by simp⟩
    · rw [← transferObject_body { ctx with fields := fields }]
      simp only [listing, TransferObject.listing, file, braced, List.append_assoc]
      rfl

section Readers

variable {α : Type*} {r : String → Option α} (k : ArtifactKind) (hk : k ∈ Members.holders)
  (ctx : Context)

include hk in
/-- A reader that finds nothing in the heading finds what is in the body. -/
theorem filterMap_listing (hheading : ∀ l, IsHeadingLine l → r l = none)
    (hclose : r "\x7d" = none) :
    (k.listing ctx).filterMap r = (indented (k.body ctx.fields)).filterMap r := by
  obtain ⟨heading, hlines, hlisting⟩ := k.exists_heading hk ctx
  have hnone : heading.filterMap r = [] :=
    List.filterMap_eq_nil_iff.mpr fun l hl => hheading l (hlines l hl)
  rw [hlisting ctx.fields, List.filterMap_append, List.filterMap_append, hnone]
  simp [hclose]

theorem filterMap_body (fields : List Field) :
    (k.body fields).filterMap r = k.opening.filterMap r ++
      fields.flatMap (fun f => (k.fieldLines f).filterMap r) ++
        (Field.identity :: fields).flatMap fun f => (Members.accessorLines f).filterMap r := by
  rw [body, List.filterMap_append, List.filterMap_append, List.filterMap_flatMap,
    List.filterMap_flatMap]

include hk in
/-- Where a field is declared, a reader that passes over annotations finds what is in the
declaration. -/
theorem filterMap_fieldLines (f : Field) (hblank : r "" = none)
    (hannotated : ∀ rest, r ("@" ++ rest) = none) :
    (k.fieldLines f).filterMap r = (r (Members.declaration f.type.javaType f.name)).toList := by
  have hcolumn : r ("@Column(name = \"" ++ f.columnName ++ "\")") = none :=
    hannotated ("Column(name = \"" ++ f.columnName ++ "\")")
  cases hd : r (Members.declaration f.type.javaType f.name) <;>
    rcases Members.mem_holders_iff.mp hk with rfl | rfl <;>
    simp [fieldLines, Entity.field, hblank, hcolumn, hd]

end Readers

end ArtifactKind

/-- What a reader finds in the accessors of a field is in the lines that open them. -/
theorem Members.filterMap_accessorLines {α : Type*} {r : String → Option α} (f : Field)
    (hblank : r "" = none)
    (hinner : ∀ start ∈ ["return ", "this."], ∀ rest, r ("    " ++ (start ++ rest)) = none)
    (hclose : r "\x7d" = none) :
    (accessorLines f).filterMap r = (r (getterHead f)).toList ++ (r (setterHead f)).toList := by
  have hreturn : r ("    " ++ ("return " ++ f.name ++ ";")) = none := by
    rw [String.append_assoc]
    exact hinner "return " (by simp) _
  have hassign : r ("    " ++ ("this." ++ f.name ++ " = " ++ f.name ++ ";")) = none := by
    simp only [String.append_assoc]
    exact hinner "this." (by simp) _
  rw [accessorLines_eq]
  cases hg : r (getterHead f) <;> cases hs : r (setterHead f) <;>
    simp [hblank, hreturn, hassign, hclose, hg, hs]

end CrudLayer
