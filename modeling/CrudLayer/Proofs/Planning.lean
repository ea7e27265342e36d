import Mathlib
import CrudLayer.Proofs.Layout
import CrudLayer.Proofs.Reading

namespace CrudLayer

namespace Path

/-- A component that goes down to a name has a name. -/
theorem isName_of_mem_components (p : Path) (s : String) (h : Component.name s ∈ p.components) :
    IsName s := by
  have hanchor : Component.name s ∉ p.anchor.components := by
    cases p.anchor <;> simp [Anchor.components]
  have hbody : Component.name s ∈ (p.body.filter (!isIdle ·)).map componentOf :=
    (List.mem_append.mp h).resolve_left hanchor
  obtain ⟨r, hr, hs⟩ := List.mem_map.mp hbody
  obtain ⟨hr, hidle⟩ := List.mem_filter.mp hr
  have hdots : r ≠ ".." := by
    rintro rfl
    simp [componentOf] at hs
  have hrs : r = s := by simpa [componentOf, hdots] using hs
  -- Components come of segments, which have no slashes.
  have hseg : s ∈ p.segments := by
    have hsub : p.body ⊆ p.segments := by
      unfold body anchored
      split
      · simp
      · split_ifs <;> simp_all
    exact hsub (hrs ▸ hr)
  have hne : s ≠ "" ∧ s ≠ "." := by simpa [isIdle, hrs] using hidle
  exact ⟨no_slash_of_mem_segments p s hseg, hne.1, hne.2, hrs ▸ hdots⟩

/-- A path is below another if its components are those of the other and then names. -/
theorem isBelow_iff (base p : Path) :
    isBelow base p = true ↔
      ∃ names : List String, p.components = base.components ++ names.map Component.name := by
  unfold isBelow after?
  by_cases hpre : base.components <+: p.components
  · obtain ⟨rest, hrest⟩ := hpre
    rw [← hrest, if_pos (by simp)]
    simp only [List.drop_left, List.all_eq_true, List.append_cancel_left_eq]
    constructor
    · intro hall
      have hnames : rest ∈ Set.range (List.map Component.name) := by
        rw [Set.range_list_map]
        intro r hr
        have hname := hall r hr
        cases r with
        | name s => exact ⟨s, rfl⟩
        | _ => exact absurd hname (by simp)
      obtain ⟨names, h⟩ := hnames
      exact ⟨names, h.symm⟩
    · rintro ⟨names, rfl⟩ r hr
      obtain ⟨n, _, rfl⟩ := List.mem_map.mp hr
      rfl
  · rw [if_neg (by simpa using hpre)]
    simp only [Bool.false_eq_true, false_iff, not_exists]
    intro names h
    exact hpre ⟨_, h.symm⟩

end Path

namespace Config

theorem isName_of_isPackageSegment (s : String) (h : isPackageSegment s = true) :
    Path.IsName s := by
  -- A segment has letters, digits and underscores only.
  have hmem : ∀ c ∈ s.toList, c ≠ '/' ∧ c ≠ '.' := by
    unfold isPackageSegment at h
    cases hl : s.toList with
    | nil => simp
    | cons a rest =>
      simp only [hl, Bool.and_eq_true, Bool.or_eq_true, beq_iff_eq, List.all_eq_true] at h
      have hchar : ∀ c : Char, c.isAlphanum = true ∨ c = '_' → c ≠ '/' ∧ c ≠ '.' := by
        rintro c hc
        refine ⟨?_, ?_⟩ <;> rintro rfl <;> revert hc <;> decide
      intro c hc
      rcases List.mem_cons.mp hc with rfl | hc
      · apply hchar
        rw [Char.isAlphanum, Bool.or_eq_true]
        exact h.1.imp_left Or.inl
      · exact hchar c (h.2 c hc)
  have hne : s.toList ≠ [] := by
    intro hnil
    simp [isPackageSegment, hnil] at h
  refine ⟨fun hs => (hmem '/' hs).1 rfl, ?_, ?_, ?_⟩
  · rintro rfl
    exact hne rfl
  all_goals
    rintro rfl
    exact (hmem '.' (by decide)).2 rfl

theorem isPackageSegment_of_checkPackage (package : String)
    (h : checkPackage package = .ok ()) :
    ∀ s ∈ packageSegments package, isPackageSegment s = true := by
  intro s hs
  unfold checkPackage at h
  split at h
  · exact absurd h (by simp)
  · split at h
    · exact absurd h (by simp)
    · rename_i hnone
      simpa using List.find?_eq_none.mp hnone s hs

/-- The segments of an accepted package go down to names. -/
theorem isName_of_checkPackage (package : String) (h : checkPackage package = .ok ()) :
    ∀ s ∈ packageSegments package, Path.IsName s := by
  intro s hs
  apply isName_of_isPackageSegment
  exact isPackageSegment_of_checkPackage package h s hs

/-- A configuration is what was given, if the package passes and the path is not empty. -/
theorem validate_eq_ok (package : String) (path : Path) (c : Config)
    (h : validate package path = .ok c) :
    c = ⟨package, path⟩ ∧ checkPackage package = .ok () ∧ path.isEmpty = false := by
  unfold validate at h
  cases hp : checkPackage package with
  | error fault =>
    rw [hp] at h
    exact absurd h (by simp [bind, Except.bind])
  | ok u =>
    cases he : path.isEmpty with
    | true =>
      rw [hp, he] at h
      exact absurd h (by simp [bind, Except.bind, throw, throwThe, MonadExceptOf.throw])
    | false =>
      rw [hp, he] at h
      refine ⟨?_, rfl, rfl⟩
      simpa [bind, Except.bind, pure, Except.pure] using h.symm

/-- The directory of a valid package is reached from the base path by the package's segments. -/
theorem home_eq_down (c : Config) (h : checkPackage c.basePackage = .ok ()) :
    Artifact.home c = c.basePath.down (packageSegments c.basePackage) := by
  have hn := isName_of_checkPackage c.basePackage h
  have hne : packageSegments c.basePackage ≠ [] := by simp [packageSegments]
  have hstem : (⟨""⟩ : Path).stem = [] := by decide
  have hpath : c.packagePath = Path.ofSegments (packageSegments c.basePackage) := by
    have hdown := Path.down_eq_ofSegments ⟨""⟩ _ hn hne
    rwa [hstem, List.nil_append] at hdown
  obtain ⟨s, rest, hs⟩ := List.exists_cons_of_ne_nil hne
  rw [Artifact.home, hpath, Path.down_eq_ofSegments c.basePath _ hn hne]
  exact Path.join_ofSegments c.basePath _ (fun s hs => (hn s hs).no_slash)
    ⟨s, rest, hs, (hn s (by simp [hs])).ne_empty⟩

end Config

namespace Artifact

/-- The file of a kind for a table, whether or not it lies below the base path. -/
def planned (t : Table) (c : Config) (k : ArtifactKind) : Artifact :=
  ⟨k, pathOf c k t.entityName, k.content (Context.ofTable t c)⟩

/-- There are files of all these kinds if each of them lies below the base path. -/
theorem mapM_ofKind_eq_ok_iff (t : Table) (c : Config) (ks : List ArtifactKind)
    (artifacts : List Artifact) :
    ks.mapM (ofKind t c) = .ok artifacts ↔
      (∀ k ∈ ks, c.basePath.isBelow (pathOf c k t.entityName) = true) ∧
        artifacts = ks.map (planned t c) := by
  induction ks generalizing artifacts with
  | nil =>
    simp only [List.mapM_nil, pure, Except.pure, Except.ok.injEq, List.map_nil]
    exact ⟨fun h => ⟨by simp, h.symm⟩, fun h => h.2.symm⟩
  | cons k rest ih =>
    rw [List.mapM_cons]
    -- The plan stops at the first file that is not below the base path.
    by_cases hk : c.basePath.isBelow (pathOf c k t.entityName) = true
    · have hof : ofKind t c k = .ok (planned t c k) := by simp [ofKind, hk, planned]
      cases hr : rest.mapM (ofKind t c) with
      | error f =>
        have hno := fun as => (ih as).not.mp (by simp [hr])
        simp only [hof, bind, Except.bind, reduceCtorEq, List.mem_cons, forall_eq_or_imp, hk,
          true_and, List.map_cons, false_iff]
        rintro ⟨hrest, -⟩
        exact hno _ ⟨hrest, rfl⟩
      | ok as =>
        obtain ⟨hrest, rfl⟩ := (ih as).mp hr
        simp only [hof, bind, Except.bind, pure, Except.pure, Except.ok.injEq, List.mem_cons,
          forall_eq_or_imp, hk, true_and, List.map_cons]
        exact ⟨fun h => ⟨hrest, h.symm⟩, fun h => h.2.symm⟩
    · have hof :
          ofKind t c k = .error (.schema (.outside k (pathOf c k t.entityName) c.basePath)) := by
        simp [ofKind, hk]
      simp [hof, bind, Except.bind, hk]

/-- There is a plan if the names of the table can be used and every file lies below the base path,
and then it holds the file of each kind. -/
theorem plan_eq_ok_iff (t : Table) (c : Config) (artifacts : List Artifact) :
    plan t c = .ok artifacts ↔
      t.checkNames = .ok () ∧
        (∀ k ∈ ArtifactKind.all, c.basePath.isBelow (pathOf c k t.entityName) = true) ∧
          artifacts = ArtifactKind.all.map (planned t c) := by
  unfold plan
  cases t.checkNames with
  | ok u => simp [mapM_ofKind_eq_ok_iff]
  | error fault => simp

/-- A plan has one file of each kind. -/
theorem kinds_of_plan (t : Table) (c : Config) (artifacts : List Artifact)
    (h : plan t c = .ok artifacts) : artifacts.map (·.kind) = ArtifactKind.all := by
  obtain ⟨-, -, rfl⟩ := (plan_eq_ok_iff t c artifacts).mp h
  simp [planned, Function.comp_def]

theorem no_slash_entityName (t : Table) (h : t.checkNames = .ok ()) :
    '/' ∉ t.entityName.toList := by
  intro hs
  have hc := Naming.continuesIdentifier_of_mem _ (t.isIdentifier_entityName h) '/' hs
  exact absurd hc (by decide)

/-- Files of two kinds have different components, whatever directory they lie below. -/
theorem components_pathOf_injective (c : Config) (e : String) (he : '/' ∉ e.toList) :
    Function.Injective fun k => (pathOf c k e).components := by
  intro j k h
  simp only [components_pathOf c _ e he, List.append_cancel_left_eq] at h
  have hname : Function.Injective Path.Component.name := fun _ _ h => Path.Component.name.inj h
  exact route_injective e (List.map_injective_iff.mpr hname h)

/-- If the files of all kinds are below the base path, none of them is the base path: the way to it
would lead past that file to another. -/
theorem names_ne_nil_of_isBelow (c : Config) (e : String) (he : '/' ∉ e.toList)
    (hall : ∀ k ∈ ArtifactKind.all, c.basePath.isBelow (pathOf c k e) = true)
    (k : ArtifactKind) (names : List String)
    (hk : (pathOf c k e).components = c.basePath.components ++ names.map Path.Component.name) :
    names ≠ [] := by
  rintro rfl
  obtain ⟨j, hj⟩ := exists_route_not_prefix k e
  have hmem : j ∈ ArtifactKind.all := by cases j <;> decide
  obtain ⟨rest, hrest⟩ := (Path.isBelow_iff _ _).mp (hall j hmem)
  rw [List.map_nil, List.append_nil] at hk
  rw [← hk, components_pathOf c k e he, components_pathOf c j e he, List.append_assoc,
    List.append_cancel_left_eq, ← List.map_append] at hrest
  have hname : Function.Injective Path.Component.name := fun _ _ h => Path.Component.name.inj h
  exact hj ⟨rest, (List.map_injective_iff.mpr hname hrest).symm⟩

/-- Under an accepted package every file lies below the base path. -/
theorem isBelow_pathOf (c : Config) (hc : Config.checkPackage c.basePackage = .ok ())
    (k : ArtifactKind) (e : String) (he : '/' ∉ e.toList) :
    c.basePath.isBelow (pathOf c k e) = true := by
  rw [Path.isBelow_iff]
  refine ⟨packageSegments c.basePackage ++ route k e, ?_⟩
  rw [components_pathOf c k e he, Config.home_eq_down c hc,
    Path.components_down _ _ (Config.isName_of_checkPackage _ hc), List.append_assoc,
    List.map_append]

/-- Accepted names and an accepted package always have a plan. -/
theorem plan_of_valid (t : Table) (c : Config) (hnames : t.checkNames = .ok ())
    (hc : Config.checkPackage c.basePackage = .ok ()) :
    plan t c = .ok (ArtifactKind.all.map (planned t c)) :=
  (plan_eq_ok_iff t c _).mpr
    ⟨hnames, fun k _ => isBelow_pathOf c hc k _ (no_slash_entityName t hnames), rfl⟩

/-- Whatever the configuration, a plan holds one file of each kind, no two in one place, and the
way to each is that of the base path and then one or more names. A valid configuration is never the
reason why there is no plan: the names of the table decide, and those of a parsed table are good. -/
theorem plan_stays_below_base (t : Table) (c : Config) :
    (∀ artifacts, plan t c = .ok artifacts →
      artifacts.map (·.kind) = ArtifactKind.all ∧
      artifacts.Pairwise (fun a b => a.path.components ≠ b.path.components) ∧
      ∀ a ∈ artifacts, ∃ names, names ≠ [] ∧ (∀ n ∈ names, Path.IsName n) ∧
        a.path.components = c.basePath.components ++ names.map Path.Component.name) ∧
    ∀ package path, Config.validate package path = .ok c →
      ((∃ artifacts, plan t c = .ok artifacts) ↔ t.checkNames = .ok ()) ∧
      (∀ fault, t.checkNames = .error fault → plan t c = .error (.schema (.name fault))) ∧
      ∀ text log, (Changeset.parse text).outcome.run = (.ok t, log) →
        ∃ artifacts, plan t c = .ok artifacts := by
  refine ⟨fun artifacts h => ?_, fun package path hv => ?_⟩
  · have hkinds := kinds_of_plan t c artifacts h
    obtain ⟨hnames, hall, rfl⟩ := (plan_eq_ok_iff t c artifacts).mp h
    have he := no_slash_entityName t hnames
    refine ⟨hkinds, ?_, ?_⟩
    · have hnodup : ArtifactKind.all.Nodup := by decide
      exact List.pairwise_map.mpr
        (hnodup.imp fun hne heq => hne (components_pathOf_injective c _ he heq))
    · -- Below the base path there are components of the file's own, and none of them leads up.
      intro a ha
      obtain ⟨k, hk, rfl⟩ := List.mem_map.mp ha
      obtain ⟨names, hcomp⟩ := (Path.isBelow_iff _ _).mp (hall k hk)
      refine ⟨names, names_ne_nil_of_isBelow c _ he hall k names hcomp, ?_, hcomp⟩
      intro n hn
      apply Path.isName_of_mem_components (pathOf c k t.entityName)
      rw [hcomp]
      exact List.mem_append_right _ (List.mem_map_of_mem hn)
  · -- Under an accepted package only the names of the table can be at fault.
    obtain ⟨rfl, hpackage, -⟩ := Config.validate_eq_ok package path c hv
    have hplan : t.checkNames = .ok () → ∃ artifacts, plan t ⟨package, path⟩ = .ok artifacts :=
      fun hnames => ⟨_, plan_of_valid t ⟨package, path⟩ hnames hpackage⟩
    refine ⟨⟨?_, hplan⟩, ?_, ?_⟩
    · rintro ⟨artifacts, h⟩
      exact ((plan_eq_ok_iff t _ artifacts).mp h).1
    · intro fault hfault
      simp [plan, hfault]
    · intro text log hparse
      exact hplan (Changeset.checkNames_of_declared text t (congrArg Prod.fst hparse))

end Artifact

end CrudLayer
