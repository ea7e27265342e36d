import Mathlib
import CrudLayer.Proofs.Hosts
import CrudLayer.Proofs.TwoRuns

namespace CrudLayer

open Executor Host

namespace Emission

variable {n : Type → Type} {S : Type} [Monad n] [LawfulMonad n] [Files n] [Host n S]
  {here : Location} {touched : Location → Prop} {artifacts : List Artifact}

/-- Directories are in nobody's place. -/
theorem confined_ensureParent (p : Path) :
    Confined here touched (ensureParent p : Logged Failure n Unit) := by
  unfold ensureParent
  cases p.parent? with
  | none => exact confined_pure ()
  | some parent =>
    by_cases hempty : parent.isEmpty = true
    · simp only [hempty, if_true]
      exact confined_pure ()
    · simp only [hempty, Bool.false_eq_true, if_false]
      exact (spares_makeFirst _).confined_doAt

theorem confined_writeDirect (h : ∀ a ∈ artifacts, touched (Disk.place here a.path)) :
    Confined here touched (writeDirect artifacts : Logged Failure n Unit) := by
  induction artifacts with
  | nil => exact confined_pure ()
  | cons a rest ih =>
    obtain ⟨ha, hrest⟩ := List.forall_mem_cons.mp h
    refine (confined_ensureParent a.path).bind fun _ => ?_
    refine (spares_write _ _ ha).confined_doAt.bind fun _ => ?_
    exact (confined_record _).bind fun _ => ih hrest

theorem confined_stage (a : Artifact) (ha : touched (Disk.place here (stagingPath a.path))) :
    Confined here touched (stage a : Logged Failure n Unit) := by
  -- Whether a directory is in the place of the file is asked before anything is written.
  have hwrite : Confined here touched
      (doAt (stagingPath a.path) (Files.write (stagingPath a.path) a.content.toUTF8) :
        Logged Failure n Unit) := (spares_write _ _ ha).confined_doAt
  refine (confined_ensureParent a.path).bind fun _ => ?_
  refine (spares_isDirectory a.path).confined_perform.bind fun found => ?_
  cases found with
  | true => exact (confined_throw rfl).bind fun _ => hwrite
  | false => exact hwrite

theorem confined_discard (h : ∀ a ∈ artifacts, touched (Disk.place here (stagingPath a.path))) :
    Confined here touched (discard artifacts : Logged Failure n Unit) := by
  induction artifacts with
  | nil => exact confined_pure ()
  | cons a rest ih =>
    obtain ⟨ha, hrest⟩ := List.forall_mem_cons.mp h
    refine (spares_remove _ ha).confined_perform.bind fun r => ?_
    cases r with
    | ok u => exact ih hrest
    | error e => exact (confined_record _).bind fun _ => ih hrest

/-- Staging touches only the places where files are staged, a failure included. -/
theorem confined_stageAll (done rest : List Artifact)
    (h : ∀ a ∈ done ++ rest, touched (Disk.place here (stagingPath a.path))) :
    Confined here touched (stageAll done rest : Logged Failure n Unit) := by
  induction rest generalizing done with
  | nil => exact confined_pure ()
  | cons a rest ih =>
    have hdone : ∀ b ∈ done, touched (Disk.place here (stagingPath b.path)) := fun b hb =>
      h b (List.mem_append_left _ hb)
    -- A failure is passed on as it is, once the files that were staged before it are removed.
    have hstep : Confined here touched
        (tryCatch (stage a) (fun failure => do discard done; throw failure) :
          Logged Failure n Unit) := by
      refine (confined_stage a (h a (by simp))).catch fun f hf => ?_
      exact (confined_discard hdone).bind fun _ => confined_throw hf
    refine hstep.bind fun _ => ih (done ++ [a]) ?_
    rwa [List.append_assoc]

/-- Moving touches only the places of the files and those where they are staged. -/
theorem confined_commit (h : ∀ a ∈ artifacts, touched (Disk.place here a.path) ∧
      touched (Disk.place here (stagingPath a.path))) :
    Confined here touched (commit artifacts : Logged Failure n Unit) := by
  induction artifacts with
  | nil => exact confined_pure ()
  | cons a rest ih =>
    obtain ⟨⟨htarget, hstaging⟩, hrest⟩ := List.forall_mem_cons.mp h
    refine (spares_move _ _ hstaging htarget).confined_perform.bind fun r => ?_
    cases r with
    | ok u => exact (confined_record _).bind fun _ => ih hrest
    | error e =>
      -- What is left to be moved is removed, this file included, and then the failure is passed on.
      refine (confined_discard fun b hb => (h b hb).2).bind fun _ => ?_
      exact (confined_throw rfl).bind fun _ => ih hrest

def IsOutput (artifacts : List Artifact) (here l : Location) : Prop :=
  ∃ a ∈ artifacts, l = Disk.place here a.path ∨ l = Disk.place here (stagingPath a.path)

/-- However files are written, no others are touched. -/
theorem confined_write (mode : EmissionMode) (artifacts : List Artifact) (here : Location) :
    Confined here (IsOutput artifacts here) (write mode artifacts : Logged Failure n Unit) := by
  have htarget : ∀ a ∈ artifacts, IsOutput artifacts here (Disk.place here a.path) :=
    fun a ha => ⟨a, ha, Or.inl rfl⟩
  have hstaging : ∀ a ∈ artifacts, IsOutput artifacts here (Disk.place here (stagingPath a.path)) :=
    fun a ha => ⟨a, ha, Or.inr rfl⟩
  cases mode with
  | staged =>
    refine (confined_stageAll [] artifacts hstaging).bind fun _ => ?_
    exact confined_commit fun a ha => ⟨htarget a ha, hstaging a ha⟩
  | direct => exact confined_writeDirect htarget

end Emission

namespace Generation

variable {n : Type → Type} {S : Type} [Monad n] [LawfulMonad n] [Files n] [Host n S]

def prepare (source : ChangesetSource) (c : Config) : Logged Failure n (Table × List Artifact) := do
  let table ← Changeset.load source
  Logged.record (.generating c table.name table.entityName)
  recordFields table.columns
  let artifacts ← Logged.ofExcept (Artifact.plan table c)
  return (table, artifacts)

/-- A dry run prepares, and says how many files it has planned. -/
theorem run_dry_eq (source : ChangesetSource) (c : Config) :
    (run source c none : Logged Failure n GenerationReport) = do
      let (table, artifacts) ← prepare source c
      Logged.record (.dryRun artifacts.length)
      return ⟨table, artifacts, false⟩ := by
  simp [run, prepare, bind_assoc]

theorem run_real_eq (source : ChangesetSource) (c : Config) (mode : EmissionMode) :
    (run source c (some mode) : Logged Failure n GenerationReport) = do
      let (table, artifacts) ← prepare source c
      Emission.write mode artifacts
      Logged.record (.generated artifacts.length)
      return ⟨table, artifacts, true⟩ := by
  simp [run, prepare, bind_assoc]

theorem still_recordFields (columns : List Column) :
    Still (recordFields columns : Logged Failure n Unit) := by
  induction columns with
  | nil => exact still_pure ()
  | cons column rest ih => exact (still_record _).bind fun _ => ih

/-- Preparing a run leaves the disk as it is. -/
theorem still_prepare (source : ChangesetSource) (c : Config) :
    Still (prepare source c : Logged Failure n (Table × List Artifact)) := by
  refine (still_load source).bind fun table => ?_
  refine (still_record _).bind fun _ => (still_recordFields _).bind fun _ => ?_
  exact (still_ofExcept _).bind fun artifacts => still_pure _

/-- What came of a dry run from the state `s`, and what came of one from there that is not dry. The
first has changed nothing. If it failed, the other has come to the same. If not, the other has
written the planned files or has failed in an operation on files, and whichever it did, has left all
files as they were that are not in a place of a planned file or staged beside it. -/
def Foretells {S : Type} (disk : S → Disk) (s : S)
    (dry real : (Except Failure GenerationReport × Log) × S) : Prop :=
  disk dry.2 = disk s ∧
    match dry.1.1 with
    | .error _ => real = dry
    | .ok report =>
      report.written = false ∧
        (real.1.1 = .ok { report with written := true } ∨
          ∃ f, real.1.1 = .error f ∧ f.stage = .io) ∧
        (disk s).Keeps (Emission.IsOutput report.artifacts (disk s).here) (disk real.2)

/-- Both runs go alike up to the plan, and there one of them ends. -/
theorem outcome_foretells (source : ChangesetSource) (c : Config) (mode : EmissionMode) (log : Log)
    (s : S) :
    Foretells (disk n) s (outcome (run source c none : Logged Failure n GenerationReport) log s)
      (outcome (run source c (some mode) : Logged Failure n GenerationReport) log s) := by
  -- Both runs begin with `prepare`. If that fails, they are one and the same.
  have hstill := still_prepare (n := n) source c log s
  rw [run_dry_eq, run_real_eq, outcome_bind, outcome_bind]
  rcases hprepared : outcome (prepare source c : Logged Failure n _) log s with
    ⟨⟨⟨f⟩ | ⟨table, artifacts⟩, log₁⟩, s₁⟩
  · rw [hprepared] at hstill
    exact ⟨hstill, rfl⟩
  rw [hprepared] at hstill
  have hstill : disk n s₁ = disk n s := hstill
  obtain ⟨hkeeps, hio⟩ := Emission.confined_write (n := n) mode artifacts (disk n s).here log₁ s₁
    (by rw [hstill])
  rw [hstill] at hkeeps
  -- The dry run only records what it has planned. The other one writes that first.
  dsimp only
  rw [outcome_bind, outcome_record, outcome_bind]
  rcases hwritten : outcome (Emission.write mode artifacts : Logged Failure n Unit) log₁ s₁ with
    ⟨⟨⟨f⟩ | ⟨u⟩, log₂⟩, s₂⟩
  · rw [hwritten] at hkeeps hio
    dsimp only
    rw [outcome_pure]
    exact ⟨hstill, rfl, Or.inr ⟨f, rfl, hio f rfl⟩, hkeeps⟩
  · rw [hwritten] at hkeeps
    dsimp only
    rw [outcome_bind, outcome_record]
    dsimp only
    rw [outcome_pure, outcome_pure]
    exact ⟨hstill, rfl, Or.inl rfl, hkeeps⟩

/-- What a run will come to can be told from a dry run, which changes nothing. That is so where
operations on files fail only if the disk does not allow them, and where they meet other troubles
besides. -/
theorem dry_run_foretells (source : ChangesetSource) (c : Config) (mode : EmissionMode)
    (log : Log) :
    (∀ m : Machine, Foretells Machine.disk m ((run source c none).on log m)
      ((run source c (some mode)).on log m)) ∧
    ∀ s : Stream' Trouble × Machine, Foretells (fun s => s.2.disk) s
      (outcome (run source c none : Logged Failure (Troubled (StateM Machine)) _) log s)
      (outcome (run source c (some mode) : Logged Failure (Troubled (StateM Machine)) _) log s) :=
  ⟨fun m => outcome_foretells (n := StateM Machine) source c mode log m, fun s =>
    outcome_foretells (n := Troubled (StateM Machine)) source c mode log s⟩

/-- A dry run has changed nothing, and the files that it has planned are there after the run that is
not dry. -/
theorem dry_run_foretells_small :
    ∃ (dry real : (Except Failure GenerationReport × Log) × Machine) (report : GenerationReport),
      (run (.inline "<createTable tableName=\"t\"/>") smallConfig none).on []
        ⟨Disk.fresh, .empty⟩ = dry ∧
      (run (.inline "<createTable tableName=\"t\"/>") smallConfig (some .staged)).on []
        ⟨Disk.fresh, .empty⟩ = real ∧
      dry.1.1 = .ok report ∧ dry.2.disk = Disk.fresh ∧
      real.1.1 = .ok { report with written := true } ∧
      report.artifacts.map (·.kind) = ArtifactKind.all ∧ real.2.disk.Holds report.artifacts := by
  have hplan := Artifact.plan_of_valid (.ofColumns "t" []) smallConfig (by decide) (by decide)
  have hs := Artifact.siblings_of_plan _ _ _ hplan
  have hcan := canEmit_small .staged _ (Or.inl entityName_small_t) _ hs
  obtain ⟨d', hrun, hsettled⟩ := runs_of_canEmit declared_small_t hplan hcan
  have hholds : d'.Holds _ := ⟨hs.nodup_places d'.here, fun a ha => hsettled.read hcan hs ha⟩
  obtain ⟨log, hreal⟩ := hrun [] .empty
  obtain ⟨hsame, hforetold⟩ := (dry_run_foretells (.inline "<createTable tableName=\"t\"/>")
    smallConfig .staged []).1 ⟨Disk.fresh, .empty⟩
  rw [show (run (.inline "<createTable tableName=\"t\"/>") smallConfig (some .staged)).on []
    ⟨Disk.fresh, .empty⟩ = _ from hreal] at hforetold
  -- The run that is not dry has succeeded, so the dry run has, and with the same report.
  generalize (run (.inline "<createTable tableName=\"t\"/>") smallConfig none).on []
    ⟨Disk.fresh, .empty⟩ = dry at hsame hforetold
  obtain ⟨⟨⟨f⟩ | ⟨⟨t, artifacts, written⟩⟩, log'⟩, m⟩ := dry
  · exact absurd (congrArg (·.1.1) hforetold) (by simp [pure])
  · obtain ⟨rfl, hreport | ⟨f, hf, -⟩, -⟩ := hforetold
    · obtain ⟨rfl, rfl⟩ : Table.ofColumns "t" [] = t ∧ _ = artifacts := by
        simpa [pure] using hreport
      exact ⟨_, _, _, rfl, hreal, rfl, hsame, rfl, Artifact.kinds_of_plan _ _ _ hplan, hholds⟩
    · exact absurd hf (by simp [pure])

end Generation

end CrudLayer
