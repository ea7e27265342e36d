import Mathlib
import CrudLayer.Proofs.SourceTree

namespace CrudLayer

open Listing

/-- A qualified name is taken apart into its package and the name of its type. -/
theorem Context.packageSegments_qualifiedName (t : Table) (c : Config) (ht : t.checkNames = .ok ())
    (k : ArtifactKind) :
    packageSegments ((ofTable t c).qualifiedName k) =
      packageSegments (k.package c.basePackage) ++ [k.typeName t.entityName] := by
  have hone : ".".intercalate [k.typeName t.entityName] = k.typeName t.entityName := by
    apply String.toList_injective
    simp
  have hdot : ∀ n ∈ [k.typeName t.entityName], '.' ∉ n.toList := by
    intro n hn hmem
    rw [List.mem_singleton.mp hn] at hmem
    -- A dot would have to continue an identifier.
    have hcontinues := Naming.continuesIdentifier_of_mem _ (isIdentifier_typeName t ht k) '.' hmem
    exact absurd hcontinues (by decide)
  have hbelow := packageSegments_below (k.package c.basePackage) [k.typeName t.entityName]
    (List.cons_ne_nil _ _) hdot
  rwa [hone] at hbelow

namespace Artifact

/-- The file is the one that the name means, below the base path. -/
def Bears (base : Path) (a : Artifact) (name : String) : Prop :=
  ∃ home type, name = home ++ "." ++ type ∧
    (lines a.content).head? = some ("package " ++ home ++ ";") ∧ declared a.content = [type] ∧
    ∃ way, packageSegments name = way ++ [type] ∧ a.path = base.down (way ++ [type ++ ".java"])

/-- A name means one path at most. -/
theorem Bears.path_eq {base : Path} {a b : Artifact} {name : String} (ha : a.Bears base name)
    (hb : b.Bears base name) : a.path = b.path := by
  obtain ⟨-, type, -, -, -, way, hway, hpath⟩ := ha
  obtain ⟨-, type', -, -, -, way', hway', hpath'⟩ := hb
  -- One name has one last part and one way before it.
  obtain ⟨rfl, hlast⟩ := List.append_inj' (hway.symm.trans hway') rfl
  obtain rfl : type = type' := List.singleton_inj.mp hlast
  rw [hpath, hpath']

section Accepted

variable (t : Table) (c : Config) (ht : t.checkNames = .ok ())
  (hc : Config.checkPackage c.basePackage = .ok ())

include ht hc

/-- Each planned file is the one that its qualified name means. -/
theorem bears_planned (k : ArtifactKind) :
    (planned t c k).Bears c.basePath ((Context.ofTable t c).qualifiedName k) := by
  refine ⟨k.package c.basePackage, k.typeName t.entityName, rfl, ?_, ?_,
    packageSegments (k.package c.basePackage), ?_, ?_⟩
  · exact head_lines_content t c ht hc k
  · exact declared_content t c ht hc k
  · exact Context.packageSegments_qualifiedName t c ht k
  · exact pathOf_eq_down_package c hc k t.entityName

omit hc in
/-- No two planned files have one path. -/
theorem planned_injective_path (j k : ArtifactKind)
    (h : (planned t c j).path = (planned t c k).path) : j = k := by
  apply components_pathOf_injective c t.entityName (no_slash_entityName t ht)
  exact congrArg Path.components h

/-- What a file of a kind has to import of the run, each name with the only file that bears it. -/
theorem exists_bears (k : ArtifactKind) :
    ∃ b ∈ ArtifactKind.all.map (planned t c), b.kind = k ∧
      b.Bears c.basePath ((Context.ofTable t c).qualifiedName k) ∧
      ∀ b' ∈ ArtifactKind.all.map (planned t c),
        b'.Bears c.basePath ((Context.ofTable t c).qualifiedName k) → b' = b := by
  have hall : k ∈ ArtifactKind.all := by cases k <;> decide
  have hbears := bears_planned t c ht hc k
  refine ⟨planned t c k, List.mem_map_of_mem hall, rfl, hbears, fun b' hb' hb => ?_⟩
  obtain ⟨j, -, rfl⟩ := List.mem_map.mp hb'
  obtain rfl : j = k := planned_injective_path t c ht j k (hb.path_eq hbears)
  rfl

end Accepted

/-- What a file imports, other than a fixed list from elsewhere, are the types of other files of the
same run, in the order of the dependencies of its kind. Each name is the package line of one file, a
dot and the type that this file declares, its parts lead to the place of the file, and no other file
of the run bears it. -/
theorem imports_resolve (t : Table) (package : String) (path : Path) (c : Config)
    (ht : t.checkNames = .ok ()) (hc : Config.validate package path = .ok c) :
    ∃ artifacts, plan t c = .ok artifacts ∧ artifacts.map (·.kind) = ArtifactKind.all ∧
      ∀ a ∈ artifacts, ∃ resolved,
        imports a.content = resolved ++ a.kind.otherImports c.basePackage ∧
        List.Forall₂ (fun k name => ∃ b ∈ artifacts, b.kind = k ∧ b.Bears c.basePath name ∧
          ∀ b' ∈ artifacts, b'.Bears c.basePath name → b' = b) a.kind.dependencies resolved := by
  obtain ⟨rfl, hpackage, -⟩ := Config.validate_eq_ok package path c hc
  have hplan := plan_of_valid t ⟨package, path⟩ ht hpackage
  refine ⟨_, hplan, kinds_of_plan t _ _ hplan, fun a ha => ?_⟩
  obtain ⟨k, -, rfl⟩ := List.mem_map.mp ha
  refine ⟨k.dependencies.map (Context.ofTable t ⟨package, path⟩).qualifiedName, ?_, ?_⟩
  · exact imports_content t ⟨package, path⟩ ht hpackage k
  · apply List.forall₂_map_right_iff.mpr
    exact List.forall₂_same.mpr fun j _ => exists_bears t ⟨package, path⟩ ht hpackage j

theorem imports_resolve_item :
    (Entity.itemTable "order_id").checkNames = .ok () ∧
    Config.validate "com.example" ⟨"out//gen"⟩ = .ok ⟨"com.example", ⟨"out//gen"⟩⟩ ∧
    ∃ artifacts, plan (Entity.itemTable "order_id") ⟨"com.example", ⟨"out//gen"⟩⟩ = .ok artifacts ∧
      ∃ a ∈ artifacts, a.kind = .repository ∧ ∃ name,
        imports a.content = name :: ArtifactKind.repository.otherImports "com.example" ∧
        ∃ b ∈ artifacts, b.kind = .entity ∧ b.Bears ⟨"out//gen"⟩ name := by
  have hnames : (Entity.itemTable "order_id").checkNames = .ok () := by decide
  have hconfig : Config.validate "com.example" ⟨"out//gen"⟩ =
      .ok ⟨"com.example", ⟨"out//gen"⟩⟩ := by decide
  obtain ⟨artifacts, hplan, hkinds, hall⟩ :=
    imports_resolve (Entity.itemTable "order_id") "com.example" ⟨"out//gen"⟩ _ hnames hconfig
  have hkind : ArtifactKind.repository ∈ artifacts.map (·.kind) := by
    rw [hkinds]
    decide
  obtain ⟨a, ha, heq⟩ := List.mem_map.mp hkind
  obtain ⟨resolved, himports, hresolved⟩ := hall a ha
  rw [heq] at himports hresolved
  -- The repository depends on the entity alone, so there is one such name.
  obtain ⟨name, rest, ⟨b, hb, hbkind, hbears, -⟩, hrest, hcons⟩ :=
    List.forall₂_cons_left_iff.mp hresolved
  rw [hcons, List.forall₂_nil_left_iff.mp hrest] at himports
  exact ⟨hnames, hconfig, artifacts, hplan, a, ha, heq, name, himports, b, hb, hbkind, hbears⟩

end Artifact
end CrudLayer
