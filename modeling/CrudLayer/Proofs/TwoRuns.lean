import Mathlib
import CrudLayer.Proofs.FirstTable
import CrudLayer.Proofs.Outcomes

namespace CrudLayer

/-- The disk has these files, each in a place of its own. -/
structure Disk.Holds (d : Disk) (artifacts : List Artifact) : Prop where
  apart : (artifacts.map fun a => Disk.place d.here a.path).Nodup
  content : ∀ a ∈ artifacts, d.read a.path = .ok a.content.toUTF8

/-- The files of a table are in places of their own. -/
theorem Artifact.Siblings.nodup_places {c : Config} {e : String} {artifacts : List Artifact}
    (hs : Siblings c e artifacts) (here : Location) :
    (artifacts.map fun a => Disk.place here a.path).Nodup := by
  have hplaces : (artifacts.map fun a => Disk.place here a.path) =
      (artifacts.map (·.kind)).map fun k => Disk.place here (pathOf c k e) := by
    rw [List.map_map]
    exact List.map_congr_left fun a ha => by rw [Function.comp_apply, hs.path_eq a ha]
  rw [hplaces]
  exact hs.nodup_kinds.map (place_pathOf_injective here c e hs.no_slash)

namespace Emission

variable {mode : EmissionMode} {c : Config} {e e' : String} {d d₁ d₂ : Disk}
  {as bs : List Artifact}

/-- The disk `d'` is `d` after two runs: what either of them settles is so, and all else is as it
was. -/
structure SettledBoth (mode : EmissionMode) (as bs : List Artifact) (d d' : Disk) : Prop where
  here : d'.here = d.here
  entry : ∀ l v, Settles mode as d.here l v ∨ Settles mode bs d.here l v → d'.entry? l = v
  kept : ∀ l, (∀ v, ¬ (Settles mode as d.here l v ∨ Settles mode bs d.here l v)) →
    d'.entry? l = d.entry? l

/-- Two runs that settle no place in two ways settle all places of both. -/
theorem Settled.both (h₁ : Settled mode c as d d₁) (h₂ : Settled mode c bs d₁ d₂)
    (hagree : ∀ l v w, Settles mode as d.here l v → Settles mode bs d.here l w → v = w) :
    SettledBoth mode as bs d d₂ := by
  have hentry := h₂.entry
  have hkept := h₂.kept
  rw [h₁.here] at hentry hkept
  refine ⟨h₂.here.trans h₁.here, fun l v hv => ?_, fun l hl => ?_⟩
  · rcases hv with hv | hv
    · -- The second run may settle the place once more, and then settles it alike.
      by_cases hsecond : ∃ w, Settles mode bs d.here l w
      · obtain ⟨w, hw⟩ := hsecond
        rw [hentry l w hw, hagree l v w hv hw]
      · rw [hkept l fun w hw => hsecond ⟨w, hw⟩, h₁.entry l v hv]
    · exact hentry l v hv
  · rw [hkept l fun v hv => hl v (Or.inr hv), h₁.kept l fun v hv => hl v (Or.inl hv)]

/-- What is settled by both does not depend on which of them went first. -/
theorem SettledBoth.same (h₁ : SettledBoth mode as bs d d₁) (h₂ : SettledBoth mode bs as d d₂) :
    d₁.Same d₂ := by
  refine ⟨h₁.here.trans h₂.here.symm, fun l => ?_⟩
  by_cases hsettled : ∃ v, Settles mode as d.here l v ∨ Settles mode bs d.here l v
  · obtain ⟨v, hv⟩ := hsettled
    rw [h₁.entry l v hv, h₂.entry l v hv.symm]
  · rw [h₁.kept l fun v hv => hsettled ⟨v, hv⟩, h₂.kept l fun v hv => hsettled ⟨v, hv.symm⟩]

section Apart

variable (hsa : Artifact.Siblings c e as) (hsb : Artifact.Siblings c e' bs)
  (hkinds : as.map (·.kind) = bs.map (·.kind)) (hne : e ≠ e')

include hsa hsb hne

/-- Files of tables with different entities are in different places. -/
theorem place_ne_of_siblings (here : Location) (a : Artifact) (ha : a ∈ as) (b : Artifact)
    (hb : b ∈ bs) : Disk.place here a.path ≠ Disk.place here b.path := by
  rw [hsa.path_eq a ha, hsb.path_eq b hb]
  exact Artifact.place_pathOf_ne_of_entity here c e a.kind b.kind hsa.no_slash hsb.no_slash hne

theorem nodup_places_append (here : Location) :
    ((as ++ bs).map fun a => Disk.place here a.path).Nodup := by
  rw [List.map_append, List.nodup_append]
  refine ⟨hsa.nodup_places here, hsb.nodup_places here, fun l hl l' hl' => ?_⟩
  obtain ⟨a, ha, rfl⟩ := List.mem_map.mp hl
  obtain ⟨b, hb, rfl⟩ := List.mem_map.mp hl'
  exact place_ne_of_siblings hsa hsb hne here a ha b hb

include hkinds

/-- Two runs that can both be made settle no place in two ways. -/
theorem Settles.agree (hcan₁ : CanEmit mode c e as d) (hcan₂ : CanEmit mode c e' bs d)
    {l l' : Location} {v w : Option Entry} (hv : Settles mode as d.here l v)
    (hw : Settles mode bs d.here l' w) (heq : l = l') : v = w := by
  have he := hsa.no_slash
  have he' := hsb.no_slash
  -- Both leave nothing where they stage, and directories above their files. No other two of the
  -- places that they settle can be one.
  cases hv with
  | @target a ha =>
    cases hw with
    | @target b hb => exact absurd heq (place_ne_of_siblings hsa hsb hne d.here a ha b hb)
    | @staging b hmode hb =>
      rw [hsa.path_eq a ha, hsb.path_eq b hb] at heq
      exact absurd heq (Artifact.place_pathOf_ne_stagingPath d.here c e a.kind b.kind he he')
    | above hl =>
      rw [← heq, hsa.path_eq a ha] at hl
      exact absurd hl (hcan₁.write.not_isAbove hsb hkinds.symm a ha)
  | @staging a hmode ha =>
    cases hw with
    | @target b hb =>
      rw [hsa.path_eq a ha, hsb.path_eq b hb] at heq
      exact absurd heq.symm (Artifact.place_pathOf_ne_stagingPath d.here c e' b.kind a.kind he' he)
    | @staging b _ hb => rfl
    | above hl =>
      rw [← heq] at hl
      exact absurd hl ((hcan₁.stage hmode).not_isAbove hsb hsa hkinds.symm a ha)
  | above hl =>
    cases hw with
    | @target b hb =>
      rw [heq, hsb.path_eq b hb] at hl
      exact absurd hl (hcan₂.write.not_isAbove hsa hkinds b hb)
    | @staging b hmode hb =>
      rw [heq] at hl
      exact absurd hl ((hcan₂.stage hmode).not_isAbove hsa hsb hkinds b hb)
    | above _ => rfl

/-- Both runs made, the second from where the first left off. -/
theorem Settled.bothOf (hcan₁ : CanEmit mode c e as d) (hcan₂ : CanEmit mode c e' bs d)
    (h₁ : Settled mode c as d d₁) (h₂ : Settled mode c bs d₁ d₂) :
    SettledBoth mode as bs d d₂ :=
  h₁.both h₂ fun _ _ _ hv hw => Settles.agree hsa hsb hkinds hne hcan₁ hcan₂ hv hw rfl

/-- After both runs the files of both are there. -/
theorem Settled.holds (hcan₁ : CanEmit mode c e as d) (hcan₂ : CanEmit mode c e' bs d)
    (h₁ : Settled mode c as d d₁) (h₂ : Settled mode c bs d₁ d₂) : d₂.Holds (as ++ bs) := by
  have hboth := Settled.bothOf hsa hsb hkinds hne hcan₁ hcan₂ h₁ h₂
  refine ⟨nodup_places_append hsa hsb hne d₂.here, fun a ha => ?_⟩
  rcases List.mem_append.mp ha with ha | ha
  · obtain ⟨b, hb, hkind⟩ := exists_kind hkinds ha
    have hopen := h₂.folder b hb
    rw [hkind] at hopen
    apply read_of_entry hsa ha (hcan₁.write.fits a ha) hopen
    rw [hboth.here]
    exact hboth.entry _ _ (Or.inl (Settles.target ha))
  · apply read_of_entry hsb ha (hcan₂.write.fits a ha) (h₂.folder a ha)
    rw [hboth.here]
    exact hboth.entry _ _ (Or.inr (Settles.target ha))

end Apart

end Emission

/-- A computation without files leaves the disk as it is and comes to the same. -/
theorem Logged.Tells.runs_ofPure {ε α : Type} {x : Logged ε Id α} {r : Except ε α} {events : Log}
    (h : Tells x r events) (d : Disk) :
    Logged.Runs (ofPure x : Logged ε (StateM Machine) α) d r d :=
  fun log input =>
    ⟨log ++ events, congrArg (fun outcome => (outcome, (⟨d, input⟩ : Machine))) (h log)⟩

namespace Generation

open Logged Emission

variable {text : String} {c : Config} {mode : EmissionMode} {d d' : Disk}

/-- A text is loaded without a look at the disk. -/
theorem runs_load (text : String) (d : Disk) :
    Runs (Changeset.load (.inline text)) d (Changeset.declared text) d := by
  obtain ⟨events, htells⟩ := Changeset.exists_tells_parse text
  have hparse := htells.runs_ofPure d
  cases hdeclared : Changeset.declared text with
  | error f =>
    rw [hdeclared] at hparse
    exact (runs_pure text d).bind hparse.bind_error
  | ok t =>
    rw [hdeclared] at hparse
    exact (runs_pure text d).bind (hparse.bind ((runs_record _ d).bind (runs_pure t d)))

/-- A run for a text that succeeded: it has planned the files of the table that the text declares,
the disk has allowed them, and they are there. -/
structure Generated (text : String) (c : Config) (mode : EmissionMode) (d : Disk)
    (report : GenerationReport) (d' : Disk) : Prop where
  table : Changeset.declared text = .ok report.table
  plan : Artifact.plan report.table c = .ok report.artifacts
  written : report.written = true
  can : CanEmit mode c report.table.entityName report.artifacts d
  settled : Settled mode c report.artifacts d d'

/-- A run for a text fails only if the text declares no table, the table has no plan or the disk
does not allow the files. -/
theorem runs_run (text : String) (c : Config) (mode : EmissionMode) (d : Disk) :
    ∃ r d', Runs (run (.inline text) c (some mode)) d r d' ∧
      match r with
      | .ok report => Generated text c mode d report d'
      | .error _ => ∀ t artifacts, Changeset.declared text = .ok t →
          Artifact.plan t c = .ok artifacts → ¬ CanEmit mode c t.entityName artifacts d := by
  have hload := runs_load text d
  rw [run_eq_load_bind]
  cases hdeclared : Changeset.declared text with
  | error f =>
    rw [hdeclared] at hload
    exact ⟨.error f, d, hload.bind_error, by simp⟩
  | ok t =>
    rw [hdeclared] at hload
    cases hplan : Artifact.plan t c with
    | error f =>
      refine ⟨.error f, d, hload.bind (runs_ofTable_unplanned t c mode d hplan), ?_⟩
      intro t' artifacts ht' hplan'
      obtain rfl := Except.ok.inj ht'
      exact absurd (hplan.symm.trans hplan') (by simp)
    | ok artifacts =>
      obtain ⟨r, d', hwrite, hok, hsettled⟩ :=
        runs_write (Artifact.siblings_of_plan t c artifacts hplan) mode d
      -- The plan is the only one that there is, so what is said of it is said of all.
      refine ⟨_, d', hload.bind (runs_ofTable t c mode hplan hwrite), ?_⟩
      cases r with
      | error f =>
        intro t' artifacts' ht' hplan' hcan
        obtain rfl := Except.ok.inj ht'
        obtain rfl := Except.ok.inj (hplan.symm.trans hplan')
        exact absurd (hok.mpr hcan) (by simp)
      | ok u => exact ⟨hdeclared, hplan, rfl, hok.mp rfl, hsettled rfl⟩

/-- The report of a run is known before it. -/
theorem Generated.report_eq {report : GenerationReport} {t : Table} {artifacts : List Artifact}
    (h : Generated text c mode d report d') (ht : Changeset.declared text = .ok t)
    (hplan : Artifact.plan t c = .ok artifacts) : report = ⟨t, artifacts, true⟩ := by
  obtain ⟨htable, hplanned, hwritten, -, -⟩ := h
  obtain ⟨table, planned, written⟩ := report
  obtain rfl := Except.ok.inj (ht.symm.trans htable)
  obtain rfl := Except.ok.inj (hplan.symm.trans hplanned)
  rw [show written = true from hwritten]

/-- A run succeeds if the disk allows the files that are planned. -/
theorem runs_of_canEmit {t : Table} {artifacts : List Artifact}
    (ht : Changeset.declared text = .ok t) (hplan : Artifact.plan t c = .ok artifacts)
    (hcan : CanEmit mode c t.entityName artifacts d) :
    ∃ d', Runs (run (.inline text) c (some mode)) d (.ok ⟨t, artifacts, true⟩) d' ∧
      Settled mode c artifacts d d' := by
  obtain ⟨r, d', hrun, hpost⟩ := runs_run text c mode d
  cases r with
  | error f => exact absurd hcan (hpost t artifacts ht hplan)
  | ok report =>
    obtain rfl := hpost.report_eq ht hplan
    exact ⟨d', hrun, hpost.settled⟩

section Small

def smallConfig : Config := ⟨"pkg", ⟨"out"⟩⟩

theorem stem_home_smallConfig : (Artifact.home smallConfig).stem = ["out", "pkg"] := by decide

/-- All paths of these files fit. -/
theorem fits_small (k : ArtifactKind) (e : String) (he : e = "T" ∨ e = "U") :
    Disk.Fits (stagingPath (Artifact.pathOf smallConfig k e)) := by
  have hslash : '/' ∉ e.toList := by
    rcases he with rfl | rfl <;> decide
  apply Artifact.fits_stagingPath smallConfig k e hslash
  · rw [stem_home_smallConfig]
    rcases he with rfl | rfl <;> cases k <;> decide
  · rw [stem_home_smallConfig]
    rcases he with rfl | rfl <;> cases k <;> decide

/-- The ways to the directories lead through names without a dot. -/
theorem not_onWay_small (k : ArtifactKind) (l : Location) (hl : Artifact.IsFilePlace l) :
    ¬ Disk.OnWay Disk.fresh.here (Artifact.folder smallConfig k) l := by
  rintro ⟨front, hfront, rfl⟩
  have hbody : (Artifact.folder smallConfig k).body = ["out", "pkg"] ++ k.layer := by
    rw [Artifact.body_folder, stem_home_smallConfig]
    rfl
  have hanchor : (Artifact.home smallConfig).anchor = .relative := by decide
  have horigin : Disk.origin Disk.fresh.here (Artifact.folder smallConfig k) =
      ["work", "base"] := by
    rw [Artifact.origin_folder, Disk.origin, hanchor]
    rfl
  -- The places of files have a dot in their names, and nothing on the way has one.
  have hplain : ∀ n ∈ ["out", "pkg"] ++ k.layer ++ ["work", "base"], '.' ∉ n.toList := by
    cases k <;> decide
  have hnames : ∀ n ∈ ["out", "pkg"] ++ k.layer, Path.IsName n := by
    intro n hn
    rcases List.mem_append.mp hn with hn | hn
    · exact Config.isName_of_checkPackage "out.pkg" (by decide) n hn
    · exact k.isName_of_mem_layer n hn
  rw [hbody] at hfront
  obtain ⟨n, hhead, hdot⟩ := hl
  rw [horigin, Disk.reach_names _ _ fun n hn => hnames n (hfront.subset hn)] at hhead
  refine hplain n ?_ hdot
  rcases List.mem_append.mp (List.mem_of_mem_head? hhead) with hn | hn
  · exact List.mem_append_left _ (hfront.subset (List.mem_reverse.mp hn))
  · exact List.mem_append_right _ hn

/-- A fresh disk allows the files of either table. -/
theorem canEmit_small (mode : EmissionMode) (e : String) (he : e = "T" ∨ e = "U")
    (artifacts : List Artifact) (hs : Artifact.Siblings smallConfig e artifacts) :
    CanEmit mode smallConfig e artifacts Disk.fresh := by
  have hslash := hs.no_slash
  have hplace := fun k => Artifact.isFilePlace_pathOf Disk.fresh.here smallConfig e k hslash
  have hstaged := fun k => Artifact.isFilePlace_stagingPath Disk.fresh.here smallConfig e k hslash
  refine ⟨⟨fun a _ => ?_, fun a _ l _ bytes hfile => ?_, fun a _ => ?_, fun a _ b _ => ?_⟩,
    fun _ => ⟨fun a ha => ?_, fun a ha => ?_, fun a ha b hb hway => ?_⟩⟩
  · exact Artifact.fits_pathOf smallConfig a.kind e hslash (fits_small a.kind e he)
  · exact absurd (entry_of_fresh l _ hfile).1 (by simp)
  · exact not_directory_fresh _ (hplace a.kind)
  · exact not_onWay_small b.kind _ (hplace a.kind)
  · rw [hs.path_eq a ha]
    exact fits_small a.kind e he
  · rw [hs.path_eq a ha]
    exact not_directory_fresh _ (hstaged a.kind)
  · rw [hs.path_eq a ha, hs.path_eq b hb, Artifact.pathOf_eq_child _ b.kind,
      Disk.onWay_child_iff _ _ _ (b.kind.isName_fileName e hslash),
      ← Artifact.pathOf_eq_child] at hway
    -- What is on the way to a file is on the way to its folder, or is the file's own place.
    rcases hway with hway | hway
    · exact not_onWay_small b.kind _ (hstaged a.kind) hway
    · exact Artifact.place_pathOf_ne_stagingPath _ _ _ b.kind a.kind hslash hslash hway.symm

theorem declared_small_t :
    Changeset.declared "<createTable tableName=\"t\"/>" = .ok (.ofColumns "t" []) := by
  decide +kernel

theorem declared_small_u :
    Changeset.declared "<createTable tableName=\"u\"/>" = .ok (.ofColumns "u" []) := by
  decide +kernel

theorem entityName_small_t : (Table.ofColumns "t" []).entityName = "T" := by decide

theorem entityName_small_u : (Table.ofColumns "u" []).entityName = "U" := by decide

end Small

/-- A run that succeeded can be made again on the disk that it left, with the same report, and then
everything stays as it is. -/
theorem regeneration_fixed (text : String) (c : Config) (mode : EmissionMode) (d : Disk) :
    ∃ r d', Runs (run (.inline text) c (some mode)) d r d' ∧
      ∀ report, r = .ok report →
        report.artifacts.map (·.kind) = ArtifactKind.all ∧ d'.Holds report.artifacts ∧
        ∃ d'', Runs (run (.inline text) c (some mode)) d' (.ok report) d'' ∧ d'.Same d'' := by
  obtain ⟨r, d', hrun, hpost⟩ := runs_run text c mode d
  refine ⟨r, d', hrun, ?_⟩
  rintro ⟨t, artifacts, written⟩ rfl
  obtain ⟨htable, hplan, hwritten, hcan, hsettled⟩ := hpost
  obtain rfl : written = true := hwritten
  have hs := Artifact.siblings_of_plan t c artifacts hplan
  have hagain := (hsettled.canEmit_iff hs hs rfl hcan).mpr hcan
  obtain ⟨d'', hrun', hsettled'⟩ := runs_of_canEmit htable hplan hagain
  refine ⟨Artifact.kinds_of_plan t c artifacts hplan, ?_, d'', hrun', hsettled.again hsettled'⟩
  exact ⟨hs.nodup_places d'.here, fun a ha => hsettled.read hcan hs ha⟩

/-- The second run has the report of the first and leaves the same disk. -/
theorem regeneration_fixed_small :
    ∃ report d' d'', report.artifacts.map (·.kind) = ArtifactKind.all ∧
      d'.Holds report.artifacts ∧
      Runs (run (.inline "<createTable tableName=\"t\"/>") smallConfig (some .staged)) Disk.fresh
        (.ok report) d' ∧
      Runs (run (.inline "<createTable tableName=\"t\"/>") smallConfig (some .staged)) d'
        (.ok report) d'' ∧ d'.Same d'' := by
  obtain ⟨r, d', hrun, hpost⟩ := regeneration_fixed "<createTable tableName=\"t\"/>" smallConfig
    .staged Disk.fresh
  have hplan := Artifact.plan_of_valid (.ofColumns "t" []) smallConfig (by decide) (by decide)
  have hcan := canEmit_small .staged _ (Or.inl entityName_small_t) _
    (Artifact.siblings_of_plan _ _ _ hplan)
  obtain ⟨d₁, hrun₁, -⟩ := runs_of_canEmit declared_small_t hplan hcan
  obtain ⟨rfl, rfl⟩ := hrun.unique hrun₁
  obtain ⟨hkinds, hholds, d'', hrun', hsame⟩ := hpost _ rfl
  exact ⟨_, d', d'', hkinds, hholds, hrun, hrun', hsame⟩

/-- A run for one text and then, if it succeeded, a run for another. -/
def inTurn (first second : String) (c : Config) (mode : EmissionMode) :
    Logged Failure (StateM Machine) (GenerationReport × GenerationReport) := do
  let report ← run (.inline first) c (some mode)
  let report' ← run (.inline second) c (some mode)
  return (report, report')

section InTurn

variable {text₁ text₂ : String} {t₁ t₂ : Table} {as bs : List Artifact}

/-- Two runs succeed exactly if the disk that they start from allows the files of both. -/
theorem runs_inTurn (ht₁ : Changeset.declared text₁ = .ok t₁)
    (ht₂ : Changeset.declared text₂ = .ok t₂) (hplan₁ : Artifact.plan t₁ c = .ok as)
    (hplan₂ : Artifact.plan t₂ c = .ok bs) (hne : t₁.entityName ≠ t₂.entityName)
    (mode : EmissionMode) (d : Disk) :
    ∃ r d', Runs (inTurn text₁ text₂ c mode) d r d' ∧
      match r with
      | .ok reports => reports = (⟨t₁, as, true⟩, ⟨t₂, bs, true⟩) ∧
          CanEmit mode c t₁.entityName as d ∧ CanEmit mode c t₂.entityName bs d ∧
          SettledBoth mode as bs d d' ∧ d'.Holds (as ++ bs)
      | .error _ => ¬ (CanEmit mode c t₁.entityName as d ∧ CanEmit mode c t₂.entityName bs d) := by
  have hsa := Artifact.siblings_of_plan t₁ c as hplan₁
  have hsb := Artifact.siblings_of_plan t₂ c bs hplan₂
  have hkinds : as.map (·.kind) = bs.map (·.kind) := by
    rw [Artifact.kinds_of_plan t₁ c as hplan₁, Artifact.kinds_of_plan t₂ c bs hplan₂]
  obtain ⟨r₁, d₁, hrun₁, hpost₁⟩ := runs_run text₁ c mode d
  cases r₁ with
  | error f => exact ⟨.error f, d₁, hrun₁.bind_error, fun h => hpost₁ t₁ as ht₁ hplan₁ h.1⟩
  | ok report₁ =>
    obtain rfl := hpost₁.report_eq ht₁ hplan₁
    have hcan₁ := hpost₁.can
    -- The first run neither makes room for the second nor takes any.
    have hiff := hpost₁.settled.canEmit_iff hsa hsb hkinds hcan₁
    obtain ⟨r₂, d₂, hrun₂, hpost₂⟩ := runs_run text₂ c mode d₁
    cases r₂ with
    | error f =>
      refine ⟨.error f, d₂, hrun₁.bind hrun₂.bind_error, fun h => ?_⟩
      exact hpost₂ t₂ bs ht₂ hplan₂ (hiff.mpr h.2)
    | ok report₂ =>
      obtain rfl := hpost₂.report_eq ht₂ hplan₂
      have hcan₂ := hiff.mp hpost₂.can
      refine ⟨_, d₂, hrun₁.bind (hrun₂.bind (runs_pure _ d₂)), rfl, hcan₁, hcan₂, ?_, ?_⟩
      · exact hpost₁.settled.bothOf hsa hsb hkinds hne hcan₁ hcan₂ hpost₂.settled
      · exact hpost₁.settled.holds hsa hsb hkinds hne hcan₁ hcan₂ hpost₂.settled

end InTurn

/-- Runs for tables with different entity names are independent. Whichever goes first, both succeed
or not, with the same reports, and leave the same disk, which then has the files of both. -/
theorem runs_commute (text₁ text₂ : String) (t₁ t₂ : Table) (package : String) (path : Path)
    (c : Config) (mode : EmissionMode) (ht₁ : Changeset.declared text₁ = .ok t₁)
    (ht₂ : Changeset.declared text₂ = .ok t₂) (hc : Config.validate package path = .ok c)
    (hne : t₁.entityName ≠ t₂.entityName) :
    ∃ as bs, Artifact.plan t₁ c = .ok as ∧ Artifact.plan t₂ c = .ok bs ∧
      as.map (·.kind) = ArtifactKind.all ∧ bs.map (·.kind) = ArtifactKind.all ∧
      ∀ d, ∃ r d₁ r' d₂, Runs (inTurn text₁ text₂ c mode) d r d₁ ∧
        Runs (inTurn text₂ text₁ c mode) d r' d₂ ∧
        ((∃ reports, r = .ok reports) ↔ ∃ reports, r' = .ok reports) ∧
        ((∃ reports, r = .ok reports) →
          r = .ok (⟨t₁, as, true⟩, ⟨t₂, bs, true⟩) ∧ r' = .ok (⟨t₂, bs, true⟩, ⟨t₁, as, true⟩) ∧
          d₁.Same d₂ ∧ d₁.Holds (as ++ bs)) := by
  obtain ⟨rfl, hpackage, -⟩ := Config.validate_eq_ok package path c hc
  have hplan₁ := Artifact.plan_of_valid t₁ ⟨package, path⟩
    (Changeset.checkNames_of_declared text₁ t₁ ht₁) hpackage
  have hplan₂ := Artifact.plan_of_valid t₂ ⟨package, path⟩
    (Changeset.checkNames_of_declared text₂ t₂ ht₂) hpackage
  refine ⟨_, _, hplan₁, hplan₂, Artifact.kinds_of_plan _ _ _ hplan₁,
    Artifact.kinds_of_plan _ _ _ hplan₂, fun d => ?_⟩
  obtain ⟨r, d₁, hrun, hpost⟩ := runs_inTurn ht₁ ht₂ hplan₁ hplan₂ hne mode d
  obtain ⟨r', d₂, hrun', hpost'⟩ := runs_inTurn ht₂ ht₁ hplan₂ hplan₁ hne.symm mode d
  refine ⟨r, d₁, r', d₂, hrun, hrun', ?_⟩
  -- In either order the runs succeed exactly if the disk allows the files of both tables.
  cases r with
  | error f =>
    cases r' with
    | error f' => simp
    | ok reports' =>
      obtain ⟨-, hcan₂, hcan₁, -⟩ := hpost'
      exact absurd ⟨hcan₁, hcan₂⟩ hpost
  | ok reports =>
    obtain ⟨rfl, hcan₁, hcan₂, hboth, hholds⟩ := hpost
    cases r' with
    | error f' => exact absurd ⟨hcan₂, hcan₁⟩ hpost'
    | ok reports' =>
      obtain ⟨rfl, -, -, hboth', -⟩ := hpost'
      exact ⟨by simp, fun _ => ⟨rfl, rfl, hboth.same hboth', hholds⟩⟩

/-- Two tables, generated in either order. -/
theorem runs_commute_small :
    ∃ as bs d₁ d₂,
      Runs (inTurn "<createTable tableName=\"t\"/>" "<createTable tableName=\"u\"/>" smallConfig
        .staged) Disk.fresh
        (.ok (⟨.ofColumns "t" [], as, true⟩, ⟨.ofColumns "u" [], bs, true⟩)) d₁ ∧
      Runs (inTurn "<createTable tableName=\"u\"/>" "<createTable tableName=\"t\"/>" smallConfig
        .staged) Disk.fresh
        (.ok (⟨.ofColumns "u" [], bs, true⟩, ⟨.ofColumns "t" [], as, true⟩)) d₂ ∧
      d₁.Same d₂ ∧ d₁.Holds (as ++ bs) := by
  have hne : (Table.ofColumns "t" []).entityName ≠ (Table.ofColumns "u" []).entityName := by decide
  obtain ⟨as, bs, hplan₁, hplan₂, -, -, hruns⟩ := runs_commute _ _ _ _ "pkg" ⟨"out"⟩ smallConfig
    .staged declared_small_t declared_small_u (by rfl) hne
  obtain ⟨r, d₁, r', d₂, hrun, hrun', -, hpost⟩ := hruns Disk.fresh
  have hcan₁ := canEmit_small .staged _ (Or.inl entityName_small_t) _
    (Artifact.siblings_of_plan _ _ _ hplan₁)
  have hcan₂ := canEmit_small .staged _ (Or.inr entityName_small_u) _
    (Artifact.siblings_of_plan _ _ _ hplan₂)
  -- The run does not fail, since the fresh disk allows the files of both tables.
  obtain ⟨r₁, d₁', hrun₁, hpost₁⟩ := runs_inTurn declared_small_t declared_small_u hplan₁ hplan₂
    hne .staged Disk.fresh
  obtain ⟨rfl, rfl⟩ := hrun.unique hrun₁
  cases r with
  | error f => exact absurd ⟨hcan₁, hcan₂⟩ hpost₁
  | ok reports =>
    obtain ⟨hr, rfl, hsame, hholds⟩ := hpost ⟨reports, rfl⟩
    rw [hr] at hrun
    exact ⟨as, bs, d₁, d₂, hrun, hrun', hsame, hholds⟩

end Generation
end CrudLayer
