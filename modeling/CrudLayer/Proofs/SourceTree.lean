import Mathlib
import CrudLayer.Proofs.Imports
import CrudLayer.Proofs.Planning

namespace CrudLayer

open Listing

theorem intercalate_packageSegments (package : String) :
    ".".intercalate (packageSegments package) = package := by
  apply String.toList_injective
  simp [packageSegments, Function.comp_def]

/-- A package below another has the segments of both. -/
theorem packageSegments_below (package : String) (names : List String) (hne : names ≠ [])
    (hnames : ∀ n ∈ names, '.' ∉ n.toList) :
    packageSegments (package ++ "." ++ ".".intercalate names) =
      packageSegments package ++ names := by
  have hpieces : ∀ piece ∈ names.map String.toList, '.' ∉ piece := by
    intro piece hp
    obtain ⟨n, hn, rfl⟩ := List.mem_map.mp hp
    exact hnames n hn
  have hchars : (package ++ "." ++ ".".intercalate names).toList =
      package.toList ++ '.' :: ['.'].intercalate (names.map String.toList) := by
    simp
  have hsplit : (package.toList ++ '.' :: ['.'].intercalate (names.map String.toList)).splitOn '.' =
      package.toList.splitOn '.' ++ (['.'].intercalate (names.map String.toList)).splitOn '.' :=
    List.splitOnP_append_cons _ _ (by simp)
  -- No name of a layer has a dot, so it is split where it was joined and nowhere else.
  rw [packageSegments, hchars, hsplit, List.splitOn_intercalate '.' hpieces (by simpa using hne)]
  simp [packageSegments]

/-- The package of a file is the base package and then its layer. -/
theorem packageSegments_package (c : Config) (k : ArtifactKind) :
    packageSegments (k.package c.basePackage) = packageSegments c.basePackage ++ k.layer :=
  packageSegments_below c.basePackage k.layer k.layer_ne_nil k.no_dot_of_mem_layer

/-- The directories of a package are its segments. -/
theorem Config.components_packagePath (c : Config) (h : checkPackage c.basePackage = .ok ()) :
    c.packagePath.components = (packageSegments c.basePackage).map Path.Component.name := by
  have hempty : (⟨""⟩ : Path).components = [] := by decide
  have hdown := Path.components_down ⟨""⟩ _ (isName_of_checkPackage _ h)
  rwa [hempty, List.nil_append] at hdown

namespace Artifact

/-- The way to a file is that to its package and then its name. -/
theorem pathOf_eq_down_package (c : Config) (h : Config.checkPackage c.basePackage = .ok ())
    (k : ArtifactKind) (e : String) :
    pathOf c k e =
      c.basePath.down (packageSegments (k.package c.basePackage) ++ [k.typeName e ++ ".java"]) := by
  calc pathOf c k e
      = (home c).down (route k e) := pathOf_eq_down c k e
    _ = (c.basePath.down (packageSegments c.basePackage)).down (route k e) := by
      rw [Config.home_eq_down c h]
    _ = c.basePath.down (packageSegments c.basePackage ++ route k e) := by
      rw [Path.down_append]
    _ = c.basePath.down (packageSegments (k.package c.basePackage) ++
          [k.typeName e ++ ".java"]) := by
      rw [packageSegments_package, List.append_assoc]
      rfl

end Artifact

section Accepted

variable (t : Table) (c : Config) (ht : t.checkNames = .ok ())
  (hc : Config.checkPackage c.basePackage = .ok ()) (k : ArtifactKind)

include ht hc in
/-- The first line of a file names its package. -/
theorem head_lines_content :
    (lines (k.content (Context.ofTable t c))).head? =
      some ("package " ++ k.package c.basePackage ++ ";") := by
  obtain ⟨description, annotations, keyword, tail, below, h⟩ :=
    k.exists_isLaidOut (Context.ofTable t c)
  rw [lines_content t c ht hc k, h.listing_eq]
  rfl

include ht in
theorem isIdentifier_typeName : Naming.isIdentifier (k.typeName t.entityName) = true := by
  obtain ⟨d, ds, hds⟩ := Naming.exists_cons_of_isIdentifier _ (t.isIdentifier_entityName ht)
  have hid := t.isIdentifier_entityName ht
  have hsuffix : k.suffix.toList.all Naming.continuesIdentifier = true := by
    cases k <;> decide
  have hchars : (k.typeName t.entityName).toList = d :: (ds ++ k.suffix.toList) := by
    rw [ArtifactKind.typeName, String.toList_append, hds, List.cons_append]
  simp only [Naming.isIdentifier, hds, Bool.and_eq_true] at hid
  rw [Naming.isIdentifier, hchars]
  simp [hid.1, hid.2, hsuffix]

end Accepted

namespace Artifact

/-- Every file of a plan begins with the package that it belongs to and declares one type. From the
base path the segments of that package lead down to the file, which has the name of the type.
Without the names of its layer the package is that of the configuration, and the directories of the
latter spell it out again. -/
theorem files_where_they_say (t : Table) (package : String) (path : Path) (c : Config)
    (ht : t.checkNames = .ok ()) (hc : Config.validate package path = .ok c) :
    (∃ artifacts, plan t c = .ok artifacts ∧ artifacts.map (·.kind) = ArtifactKind.all ∧
      ∀ a ∈ artifacts, ∃ home type,
        (lines a.content).head? = some ("package " ++ home ++ ";") ∧
        declared a.content = [type] ∧ Naming.isIdentifier type = true ∧
        a.path = c.basePath.down (packageSegments home ++ [type ++ ".java"]) ∧
        home = c.basePackage ++ "." ++ ".".intercalate a.kind.layer) ∧
    ∃ names, c.packagePath.components = names.map Path.Component.name ∧
      ".".intercalate names = c.basePackage := by
  obtain ⟨rfl, hpackage, -⟩ := Config.validate_eq_ok package path c hc
  have hplan := plan_of_valid t ⟨package, path⟩ ht hpackage
  refine ⟨⟨_, hplan, kinds_of_plan t _ _ hplan, fun a ha => ?_⟩, ?_⟩
  · obtain ⟨k, -, rfl⟩ := List.mem_map.mp ha
    refine ⟨k.package package, k.typeName t.entityName, ?_, ?_, ?_, ?_, rfl⟩
    · exact head_lines_content t ⟨package, path⟩ ht hpackage k
    · exact declared_content t ⟨package, path⟩ ht hpackage k
    · exact isIdentifier_typeName t ht k
    · exact pathOf_eq_down_package ⟨package, path⟩ hpackage k t.entityName
  · exact ⟨packageSegments package, Config.components_packagePath ⟨package, path⟩ hpackage,
      intercalate_packageSegments package⟩

theorem files_where_they_say_item :
    (Entity.itemTable "order_id").checkNames = .ok () ∧
    Config.validate "com.example" ⟨"out//gen"⟩ = .ok ⟨"com.example", ⟨"out//gen"⟩⟩ ∧
    ∃ artifacts, plan (Entity.itemTable "order_id") ⟨"com.example", ⟨"out//gen"⟩⟩ = .ok artifacts ∧
      ∃ a ∈ artifacts, a.kind = .transferObject ∧
        (lines a.content).head? = some "package com.example.service.dto;" := by
  have hnames : (Entity.itemTable "order_id").checkNames = .ok () := by decide
  have hconfig : Config.validate "com.example" ⟨"out//gen"⟩ =
      .ok ⟨"com.example", ⟨"out//gen"⟩⟩ := by decide
  obtain ⟨⟨artifacts, hplan, hkinds, hall⟩, -⟩ :=
    files_where_they_say (Entity.itemTable "order_id") "com.example" ⟨"out//gen"⟩ _ hnames hconfig
  have hkind : ArtifactKind.transferObject ∈ artifacts.map (·.kind) := by
    rw [hkinds]
    decide
  obtain ⟨a, ha, heq⟩ := List.mem_map.mp hkind
  obtain ⟨home, type, hhead, -, -, -, hhome⟩ := hall a ha
  refine ⟨hnames, hconfig, artifacts, hplan, a, ha, heq, ?_⟩
  rw [hhead, hhome, heq]
  decide

end Artifact
end CrudLayer
