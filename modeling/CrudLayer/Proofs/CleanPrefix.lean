import Mathlib
import CrudLayer.Proofs.Runs

namespace CrudLayer.Emission

open Logged

/-- Writing `a` from the disk `d` has failed with `f`. Only directories above its place may be new,
and the failure is that of the place or of the directory that it is in. -/
structure Stopped (a : Artifact) (d d' : Disk) (f : Failure) : Prop where
  grows : d.Grows d' fun l => ∃ p ∈ a.path.parents, l = Disk.place d.here p
  path : ∃ fault, f = .io a.path fault ∨
    ∃ folder, a.path.parent? = some folder ∧ f = .io folder fault

/-- The directory of a file is made with those above it, as far as they can be made. -/
theorem runs_ensureParent_grows (p : Path) (d : Disk) :
    ∃ r d', Runs (ensureParent p : Logged Failure (StateM Machine) Unit) d r d' ∧
      d.Grows d' (fun l => ∃ q ∈ p.parents, l = Disk.place d.here q) ∧
      ∀ f, r = .error f → ∃ folder fault, p.parent? = some folder ∧ f = .io folder fault := by
  cases hparent : p.parent? with
  | none =>
    have hrun : Runs (ensureParent p : Logged Failure (StateM Machine) Unit) d (.ok ()) d := by
      rw [ensureParent, hparent]
      exact runs_pure () d
    exact ⟨_, d, hrun, Disk.Grows.refl d _, by simp⟩
  | some folder =>
    by_cases hempty : folder.isEmpty = true
    · have hrun : Runs (ensureParent p : Logged Failure (StateM Machine) Unit) d (.ok ()) d := by
        rw [ensureParent, hparent]
        simp only [hempty, if_true]
        exact runs_pure () d
      exact ⟨_, d, hrun, Disk.Grows.refl d _, by simp⟩
    · rw [Bool.not_eq_true] at hempty
      have hrun := runs_ensureParent (Path.parents_eq_cons p folder hparent) hempty d
      refine ⟨_, _, hrun, d.ensureFirst_grows p.parents, fun f hf => ?_⟩
      cases hmade : (d.ensureFirst p.parents).1 with
      | ok u => simp [hmade, Except.mapError] at hf
      | error fault =>
        rw [hmade] at hf
        exact ⟨folder, fault, rfl, (Except.error.inj hf).symm⟩

def writeOne (a : Artifact) : Logged Failure (StateM Machine) Unit := do
  ensureParent a.path
  doAt a.path (Files.write a.path a.content.toUTF8)
  Logged.record (.written a.kind a.path)

theorem writeDirect_cons (a : Artifact) (rest : List Artifact) :
    (writeDirect (a :: rest) : Logged Failure (StateM Machine) Unit) =
      writeOne a >>= fun _ => writeDirect rest := by
  simp only [writeDirect, writeOne, bind_assoc]

/-- To write files and then others is to write all of them in one go. -/
theorem writeDirect_append (as bs : List Artifact) :
    (writeDirect (as ++ bs) : Logged Failure (StateM Machine) Unit) =
      writeDirect as >>= fun _ => writeDirect bs := by
  induction as with
  | nil => rfl
  | cons a rest ih => rw [List.cons_append, writeDirect_cons, writeDirect_cons, ih, bind_assoc]

/-- Where one file cannot be written, at most directories above it are new. -/
theorem runs_writeOne (a : Artifact) (d : Disk) :
    ∃ r d', Runs (writeOne a) d r d' ∧ ∀ f, r = .error f → Stopped a d d' f := by
  -- Directories come first. The file comes last, and a disk that refuses it stays as it is.
  obtain ⟨r, d₁, hparent, hgrows, hpath⟩ := runs_ensureParent_grows a.path d
  cases r with
  | error f =>
    obtain ⟨folder, fault, hfolder, rfl⟩ := hpath f rfl
    refine ⟨_, d₁, hparent.bind_error, fun f' hf' => ?_⟩
    obtain rfl := Except.error.inj hf'
    exact ⟨hgrows, fault, Or.inr ⟨folder, hfolder, rfl⟩⟩
  | ok u =>
    cases hwrite : d₁.write a.path a.content.toUTF8 with
    | error fault =>
      refine ⟨_, d₁, hparent.bind (runs_write_error hwrite).bind_error, fun f' hf' => ?_⟩
      obtain rfl := Except.error.inj hf'
      exact ⟨hgrows, fault, Or.inl rfl⟩
    | ok d₂ =>
      exact ⟨_, d₂, hparent.bind ((runs_write_ok hwrite).bind (runs_record _ d₂)), by simp⟩

/-- A run that fails has stopped at a file, and was a run for those before it until then. -/
theorem runs_writeDirect_stopped (artifacts : List Artifact) (d : Disk) :
    ∃ r d', Runs (writeDirect artifacts) d r d' ∧
      ∀ f, r = .error f → ∃ k, ∃ hk : k < artifacts.length, ∃ d₁,
        Runs (writeDirect (artifacts.take k)) d (.ok ()) d₁ ∧ Stopped artifacts[k] d₁ d' f := by
  -- The file that stops the run is the first one, or it stops the run of those after the first. In
  -- that case the first one belongs to what was written before it.
  induction artifacts generalizing d with
  | nil => exact ⟨_, d, runs_pure () d, by simp⟩
  | cons a rest ih =>
    rw [writeDirect_cons]
    obtain ⟨r, d₁, hone, hstopped⟩ := runs_writeOne a d
    cases r with
    | error f =>
      refine ⟨_, d₁, hone.bind_error, fun f' hf' => ?_⟩
      obtain rfl := Except.error.inj hf'
      exact ⟨0, by simp, d, runs_pure () d, hstopped f rfl⟩
    | ok u =>
      obtain ⟨r, d', hrest, hlater⟩ := ih d₁
      refine ⟨r, d', hone.bind hrest, fun f hf => ?_⟩
      obtain ⟨k, hk, d₂, hprefix, hstop⟩ := hlater f hf
      refine ⟨k + 1, by simpa using hk, d₂, ?_, hstop⟩
      rw [List.take_succ_cons, writeDirect_cons]
      exact hone.bind hprefix

/-- Direct writing that fails has stopped at one of the files. It leaves the same files as writing
only those before that one, which succeeds. To write files and then others is to write the first
ones and, if that succeeds, the others. -/
theorem direct_stops_at_prefix :
    (∀ (artifacts : List Artifact) (d : Disk), ∃ r d', Runs (write .direct artifacts) d r d' ∧
      ∀ f, r = .error f → ∃ k, ∃ hk : k < artifacts.length, ∃ d₁,
        Runs (write .direct (artifacts.take k)) d (.ok ()) d₁ ∧
          (∀ l bytes, d'.entry? l = some (.file bytes) ↔ d₁.entry? l = some (.file bytes)) ∧
          Stopped artifacts[k] d₁ d' f) ∧
    ∀ as bs : List Artifact,
      (write .direct (as ++ bs) : Logged Failure (StateM Machine) Unit) =
        write .direct as >>= fun _ => write .direct bs := by
  refine ⟨fun artifacts d => ?_, writeDirect_append⟩
  obtain ⟨r, d', hrun, hstopped⟩ := runs_writeDirect_stopped artifacts d
  refine ⟨r, d', hrun, fun f hf => ?_⟩
  obtain ⟨k, hk, d₁, hprefix, hstop⟩ := hstopped f hf
  exact ⟨k, hk, d₁, hprefix, hstop.grows.file_iff, hstop⟩

/-- Two files, the second of which is to be in a directory that is in the place of the first. -/
def stackedFiles : List Artifact := [
  ⟨.entity, ⟨"out/Foo.java"⟩, "class Foo"⟩,
  ⟨.transferObject, ⟨"out/Foo.java/FooDTO.java"⟩, "class FooDTO"⟩]

def stackedRun : (Except Failure Unit × Log) × Machine :=
  (write .direct stackedFiles).on [] ⟨Disk.fresh, .empty⟩

/-- The second of the two files stops the run, and the first is there. -/
theorem direct_stops_at_prefix_stacked :
    ∃ d' d₁, Runs (write .direct stackedFiles) Disk.fresh
        (.error (.io ⟨"out/Foo.java"⟩ .present)) d' ∧
      d'.read ⟨"out/Foo.java"⟩ = .ok "class Foo".toUTF8 ∧
      Runs (write .direct (stackedFiles.take 1)) Disk.fresh (.ok ()) d₁ ∧
      ∀ l bytes, d'.entry? l = some (.file bytes) ↔ d₁.entry? l = some (.file bytes) := by
  obtain ⟨r, d', hrun, hstopped⟩ := direct_stops_at_prefix.1 stackedFiles Disk.fresh
  obtain ⟨log, hlog⟩ := hrun [] .empty
  have hend : stackedRun = ((r, log), ⟨d', .empty⟩) := hlog
  have hfailed : stackedRun.1.1 = .error (.io ⟨"out/Foo.java"⟩ .present) := by decide +kernel
  have hread : stackedRun.2.disk.read ⟨"out/Foo.java"⟩ = .ok "class Foo".toUTF8 := by
    decide +kernel
  have hentry : stackedRun.2.disk.entry? ["Foo.java", "out", "work", "base"] =
      some (.file "class Foo".toUTF8) := by
    decide +kernel
  rw [hend] at hfailed hread hentry
  obtain rfl : r = .error (.io ⟨"out/Foo.java"⟩ .present) := hfailed
  obtain ⟨k, hk, d₁, hprefix, hfiles, -⟩ := hstopped _ rfl
  have hlt : k < 2 := hk
  interval_cases k
  · -- Without any file nothing would have been written.
    obtain ⟨-, rfl⟩ := hprefix.unique (runs_pure () Disk.fresh)
    exact absurd ((hfiles _ _).mp hentry) (by decide)
  · exact ⟨d', d₁, hrun, hread, hprefix, hfiles⟩

end CrudLayer.Emission
