import Mathlib
import CrudLayer.Proofs.Direct
import CrudLayer.Proofs.Staging

/-!
The two ways of writing files, side by side. Run from one disk they make the same directories and
fail at the same files, as long as the staged files have room of their own.
-/
namespace CrudLayer.Emission

open Logged

variable {c : Config} {e : String} {a : Artifact} {d d' d'' : Disk} {artifacts : List Artifact}

/-- Removing staged files never fails. -/
theorem runs_discard_ok (artifacts : List Artifact) (d : Disk) :
    ∃ d', Runs (discard artifacts) d (.ok ()) d' := by
  induction artifacts generalizing d with
  | nil => exact ⟨d, runs_pure () d⟩
  | cons a rest ih =>
    cases hr : d.remove (stagingPath a.path) with
    | ok d₁ =>
      obtain ⟨d₂, hrest⟩ := ih d₁
      exact ⟨d₂, (runs_remove hr).bind hrest⟩
    | error fault =>
      obtain ⟨d₂, hrest⟩ := ih d
      exact ⟨d₂, (runs_remove_error hr).bind ((runs_record _ d).bind hrest)⟩

/-- If one file cannot be staged, the run fails with its failure. -/
theorem runs_stageAll_error (done rest : List Artifact) {f : Failure}
    (h : Runs (stage a) d (.error f) d') :
    ∃ d'', Runs (stageAll done (a :: rest)) d (.error f) d'' := by
  obtain ⟨d'', hrun⟩ := runs_discard_ok done d'
  refine ⟨d'', Runs.bind_error (h.tryCatch_error ?_)⟩
  exact hrun.bind (runs_throw f d'')

def IsTouched (c : Config) (e : String) (here : Location) (artifacts : List Artifact)
    (l : Location) : Prop :=
  ∃ a ∈ artifacts, l = Disk.place here (Artifact.pathOf c a.kind e) ∨
    l = Disk.place here (stagingPath (Artifact.pathOf c a.kind e))

/-- The disks of the two runs, from one start: they differ in the touched places only, and no
directory is where a file is to be staged. -/
structure Parallel (c : Config) (e : String) (artifacts : List Artifact) (here : Location)
    (d₁ d₂ : Disk) : Prop where
  start : d₁.here = here
  alike : Disk.Alike (IsTouched c e here artifacts) d₁ d₂
  free : ∀ a ∈ artifacts,
    d₁.entry? (Disk.place here (stagingPath (Artifact.pathOf c a.kind e))) ≠ some .directory

namespace Parallel

variable {here : Location} {d₁ d₂ : Disk}

/-- Both runs make the directory of a file, or neither can. -/
theorem ensureParent (h : Parallel c e artifacts here d₁ d₂) (hs : Artifact.Siblings c e artifacts)
    (hoff : ∀ l, IsTouched c e here artifacts l → ∀ a ∈ artifacts,
      ¬ Disk.OnWay here (Artifact.folder c a.kind) l) (ha : a ∈ artifacts) :
    ∃ r₁ m₁ r₂ m₂, Runs (Emission.ensureParent a.path) d₁ r₁ m₁ ∧
      Runs (Emission.ensureParent a.path) d₂ r₂ m₂ ∧ (r₁ = .ok () ↔ r₂ = .ok ()) ∧
      (r₁ = .ok () → m₁.Open (Artifact.folder c a.kind)) ∧ Parallel c e artifacts here m₁ m₂ := by
  have hhere : d₂.here = here := h.alike.here.symm.trans h.start
  obtain ⟨r₁, m₁, hrun₁, hm₁, hok₁, hgrows, hopen⟩ := runs_ensureParent_mem hs ha h.start
  obtain ⟨r₂, m₂, hrun₂, hm₂, hok₂, -, -⟩ := runs_ensureParent_mem hs ha hhere
  -- Nothing on the way to a directory is touched by either run.
  have hway : ∀ p ∈ a.path.parents, ∀ l, Disk.OnWay d₁.here p l →
      ¬ IsTouched c e here artifacts l := by
    intro p hp l hl htouched
    rw [hs.path_eq a ha] at hp
    rw [h.start] at hl
    apply hoff l htouched a ha
    exact Artifact.onWay_of_mem_parents here c e a.kind hs.no_slash p hp l hl
  obtain ⟨hsame, halike⟩ := Disk.ensureFirst_congr h.alike _ hway
  rw [← hm₁, ← hm₂] at halike
  refine ⟨r₁, m₁, r₂, m₂, hrun₁, hrun₂, ?_, hopen, hgrows.here.trans h.start, halike, ?_⟩
  · rw [hok₁, hok₂, hsame]
  · -- No directory was made where a file is to be staged.
    intro b hb hdir
    rcases hgrows.entry (Disk.place here (stagingPath (Artifact.pathOf c b.kind e))) with
      h1 | ⟨-, -, habove⟩
    · exact h.free b hb (h1.symm.trans hdir)
    · obtain ⟨b', hb', hon⟩ := onWay_of_isAbove hs here _ habove
      exact hoff _ ⟨b, hb, Or.inr rfl⟩ b' hb' hon

/-- Once its directory is there, a file is written in its place by the one run and beside it by the
other, or a directory in its place keeps it from both. -/
theorem write (h : Parallel c e artifacts here d₁ d₂) (he : '/' ∉ e.toList) (ha : a ∈ artifacts)
    (hopen : d₁.Open (Artifact.folder c a.kind))
    (hfit : Disk.Fits (stagingPath (Artifact.pathOf c a.kind e))) (bytes : ByteArray) :
    (∃ d₁' d₂', d₁.write (Artifact.pathOf c a.kind e) bytes = .ok d₁' ∧
      d₂.isDirectory (Artifact.pathOf c a.kind e) = false ∧
      d₂.write (stagingPath (Artifact.pathOf c a.kind e)) bytes = .ok d₂' ∧
      Parallel c e artifacts here d₁' d₂') ∨
    (∃ fault, d₁.write (Artifact.pathOf c a.kind e) bytes = .error fault) ∧
      d₂.isDirectory (Artifact.pathOf c a.kind e) = true := by
  have hhere : d₂.here = here := h.alike.here.symm.trans h.start
  have hfolder₁ := (spots_pathOf c e he).hasFolder hopen
  have hfolder₂ := (spots_stagingPath c e he).hasFolder ((h.alike.open_iff _).mp hopen)
  have hfit' := Artifact.fits_pathOf c a.kind e he hfit
  -- The one run writes over what is in the place, the other looks there: a directory stops both.
  by_cases hdir : d₁.entry? (Disk.place d₁.here (Artifact.pathOf c a.kind e)) = some .directory
  · right
    have hplace := hfolder₁.open_iff.mpr ⟨hfit', hdir⟩
    refine ⟨?_, (Disk.isDirectory_iff d₂ _).mpr ((h.alike.open_iff _).mp hplace)⟩
    cases hw : d₁.write (Artifact.pathOf c a.kind e) bytes with
    | error fault => exact ⟨fault, rfl⟩
    | ok d₁' => exact absurd hdir (hfolder₁.of_write hw).2.1
  · left
    have hno : d₂.isDirectory (Artifact.pathOf c a.kind e) = false := by
      rw [← Bool.not_eq_true, Disk.isDirectory_iff, ← h.alike.open_iff, hfolder₁.open_iff]
      exact fun hplace => hdir hplace.2
    have hfree : d₂.entry? (Disk.place here (stagingPath (Artifact.pathOf c a.kind e))) ≠
        some .directory := fun hfull => h.free a ha ((h.alike.directory_iff _).mpr hfull)
    obtain ⟨d₁', hw₁, hsets₁⟩ := hfolder₁.write hfit' hdir bytes
    obtain ⟨d₂', hw₂, hsets₂⟩ := hfolder₂.write hfit (hhere ▸ hfree) bytes
    rw [h.start] at hsets₁ hdir
    rw [hhere] at hsets₂
    have halike := h.alike.set_file hsets₁ ⟨a, ha, Or.inl rfl⟩ hdir
    refine ⟨d₁', d₂', hw₁, hno, hw₂, hsets₁.here.trans h.start,
      (halike.symm.set_file hsets₂ ⟨a, ha, Or.inr rfl⟩ hfree).symm, fun b hb => ?_⟩
    have hne := Artifact.place_pathOf_ne_stagingPath here c e a.kind b.kind he he
    rw [hsets₁.of_ne hne.symm]
    exact h.free b hb

end Parallel

/-- From one disk, both ways of writing files fail at the same file, or none does and the disks
stay alike. -/
theorem runs_alike (hs : Artifact.Siblings c e artifacts) (here : Location)
    (hoff : ∀ l, IsTouched c e here artifacts l → ∀ a ∈ artifacts,
      ¬ Disk.OnWay here (Artifact.folder c a.kind) l)
    (hfits : ∀ a ∈ artifacts, Disk.Fits (stagingPath (Artifact.pathOf c a.kind e)))
    (done rest : List Artifact) (hsub : ∀ a ∈ rest, a ∈ artifacts) {d₁ d₂ : Disk}
    (h : Parallel c e artifacts here d₁ d₂) :
    ∃ r₁ d₁' r₂ d₂', Runs (writeDirect rest) d₁ r₁ d₁' ∧ Runs (stageAll done rest) d₂ r₂ d₂' ∧
      (r₁ = .ok () ∧ r₂ = .ok () ∧ Disk.Alike (IsTouched c e here artifacts) d₁' d₂' ∨
        r₁ ≠ .ok () ∧ r₂ ≠ .ok ()) := by
  -- `Parallel` is kept as long as neither run fails, and they fail at the same file.
  induction rest generalizing done d₁ d₂ with
  | nil =>
    exact ⟨.ok (), d₁, .ok (), d₂, runs_pure () d₁, runs_pure () d₂, Or.inl ⟨rfl, rfl, h.alike⟩⟩
  | cons a rest ih =>
    have ha := hsub a List.mem_cons_self
    have hpath := hs.path_eq a ha
    obtain ⟨r₁, m₁, r₂, m₂, hrun₁, hrun₂, hiff, hopen, hm⟩ := h.ensureParent hs hoff ha
    cases r₁ with
    | error f₁ =>
      cases r₂ with
      | ok u => exact absurd (hiff.mpr rfl) (by simp)
      | error f₂ =>
        obtain ⟨m₃, hrun₃⟩ := runs_stageAll_error done rest (runs_stage_unreachable hrun₂)
        exact ⟨_, m₁, _, m₃, hrun₁.bind_error, hrun₃, Or.inr ⟨by simp, by simp⟩⟩
    | ok u =>
      obtain rfl : r₂ = .ok () := hiff.mp rfl
      rcases hm.write hs.no_slash ha (hopen rfl) (hfits a ha) a.content.toUTF8 with
        ⟨d₁', d₂', hw₁, hno, hw₂, hd⟩ | ⟨⟨fault, hw₁⟩, hdir⟩
      · obtain ⟨r₁, e₁, r₂, e₂, hdirect, hstaged, hpost⟩ := ih (done ++ [a])
          (fun b hb => hsub b (List.mem_cons_of_mem a hb)) hd
        rw [← hpath] at hw₁ hw₂ hno
        refine ⟨r₁, e₁, r₂, e₂, ?_, ?_, hpost⟩
        · exact hrun₁.bind ((runs_write_ok hw₁).bind ((runs_record _ d₁').bind hdirect))
        · exact (runs_stage_ok hrun₂ hno hw₂).tryCatch_ok.bind hstaged
      · rw [← hpath] at hw₁ hdir
        obtain ⟨m₃, hrun₃⟩ := runs_stageAll_error done rest (runs_stage_directory hrun₂ hdir)
        refine ⟨.error (.io a.path fault), m₁, _, m₃, ?_, hrun₃, Or.inr ⟨by simp, by simp⟩⟩
        exact hrun₁.bind (runs_write_error hw₁).bind_error

/-- What keeps staged files from being written: a directory at one of the places they lead to, the
way to a file leading through one of these places, or a path that is too long. -/
structure CanStage (artifacts : List Artifact) (d : Disk) : Prop where
  fits : ∀ a ∈ artifacts, Disk.Fits (stagingPath a.path)
  free : ∀ a ∈ artifacts,
    d.entry? (Disk.place d.here (stagingPath a.path)) ≠ some .directory
  off_way : ∀ a ∈ artifacts, ∀ b ∈ artifacts,
    ¬ Disk.OnWay d.here b.path (Disk.place d.here (stagingPath a.path))

/-- Where all files were staged, there was room for them. -/
theorem Staged.canStage (h : Staged c e artifacts d d' artifacts)
    (hs : Artifact.Siblings c e artifacts) : CanStage artifacts d := by
  have he := hs.no_slash
  refine ⟨fun a ha => ?_, fun a ha => ?_, fun a ha b hb hway => ?_⟩
  · rw [hs.path_eq a ha]
    exact h.fits a ha
  · rw [hs.path_eq a ha]
    exact h.free a ha
  · rw [hs.path_eq a ha, hs.path_eq b hb, Artifact.pathOf_eq_child] at hway
    rcases (Disk.onWay_child_iff d.here _ _ (b.kind.isName_fileName e he) _).mp hway with
      hfolder | htarget
    · rw [← h.here] at hfolder
      refine Artifact.not_onWay_folder c (h.folder a ha) ?_ ?_ b.kind hfolder
      · exact Artifact.isFilePlace_stagingPath d'.here c e a.kind he
      · rw [h.here, h.laid a ha]
        simp
    · rw [← Artifact.pathOf_eq_child] at htarget
      exact Artifact.place_pathOf_ne_stagingPath d.here c e b.kind a.kind he he htarget.symm

theorem canStage_of_writeStaged (hs : Artifact.Siblings c e artifacts)
    (h : Runs (writeStaged artifacts) d (.ok ()) d') : CanStage artifacts d := by
  obtain ⟨r, d₁, hstage, hpost⟩ :=
    runs_stageAll hs [] artifacts rfl (Staged.nil c e artifacts d)
  cases r with
  | error f => exact absurd (h.unique hstage.bind_error).1 (by simp)
  | ok u => exact Staged.canStage hpost hs

/-- If staged files can be written, and a disk has the directories of all files and no directory in
the place of one, then none of these places is on the way to the directory of a file. -/
theorem off_way_of_canStage (hs : Artifact.Siblings c e artifacts) (hcan : CanStage artifacts d)
    (hhere : d'.here = d.here) (hfolder : ∀ a ∈ artifacts, d'.Open (Artifact.folder c a.kind))
    (htarget : ∀ a ∈ artifacts,
      d'.entry? (Disk.place d.here (Artifact.pathOf c a.kind e)) ≠ some .directory)
    (l : Location) (hl : IsTouched c e d.here artifacts l) (b : Artifact) (hb : b ∈ artifacts) :
    ¬ Disk.OnWay d.here (Artifact.folder c b.kind) l := by
  have he := hs.no_slash
  intro hway
  obtain ⟨a, ha, heq | heq⟩ := hl
  · rw [heq, ← hhere] at hway
    rw [← hhere] at htarget
    refine Artifact.not_onWay_folder c (hfolder a ha) ?_ (htarget a ha) b.kind hway
    exact Artifact.isFilePlace_pathOf d'.here c e a.kind he
  · rw [heq] at hway
    apply hcan.off_way a ha b hb
    rw [hs.path_eq a ha, hs.path_eq b hb, Artifact.pathOf_eq_child c b.kind e,
      Disk.onWay_child_iff _ _ _ (b.kind.isName_fileName e he)]
    exact Or.inl hway

/-- What two ways of writing files leave is the same, but for what was at the places of staged
files: staged writing leaves nothing there, direct writing what was there. -/
structure SameButStaged (artifacts : List Artifact) (d direct staged : Disk) : Prop where
  here : staged.here = direct.here
  entry : ∀ l, (∀ a ∈ artifacts, l ≠ Disk.place d.here (stagingPath a.path)) →
    staged.entry? l = direct.entry? l
  gone : ∀ a ∈ artifacts, staged.entry? (Disk.place d.here (stagingPath a.path)) = none
  untouched : ∀ a ∈ artifacts, direct.entry? (Disk.place d.here (stagingPath a.path)) =
    d.entry? (Disk.place d.here (stagingPath a.path))

/-- After both ways of writing have succeeded, only the staging places differ. -/
theorem sameButStaged {d₁ d₂ d₃ : Disk} (hs : Artifact.Siblings c e artifacts)
    (hoff : ∀ l, IsTouched c e d.here artifacts l → ∀ a ∈ artifacts,
      ¬ Disk.OnWay d.here (Artifact.folder c a.kind) l)
    (hlaid : Laid c (fun k => Artifact.pathOf c k e) artifacts d d₁ artifacts)
    (hstaged : Staged c e artifacts d d₂ artifacts)
    (halike : Disk.Alike (IsTouched c e d.here artifacts) d₁ d₂)
    (hmoved : Moved c e artifacts d₂ d₃) : SameButStaged artifacts d d₁ d₃ := by
  have hfilled := hmoved.filled
  have hemptied := hmoved.emptied
  have hkept := hmoved.kept
  rw [hstaged.here] at hfilled hemptied hkept
  refine ⟨?_, fun l hl => ?_, fun a ha => ?_, fun a ha => ?_⟩
  · rw [hmoved.here, halike.here]
  · -- A place is that of a file, or neither run has done anything to it.
    by_cases htarget : ∃ a ∈ artifacts, l = Disk.place d.here (Artifact.pathOf c a.kind e)
    · obtain ⟨a, ha, heq⟩ := htarget
      rw [heq, hfilled a ha, hlaid.laid a ha]
    · have hout : ∀ a ∈ artifacts, l ≠ Disk.place d.here (Artifact.pathOf c a.kind e) ∧
          l ≠ Disk.place d.here (stagingPath (Artifact.pathOf c a.kind e)) := by
        intro a ha
        refine ⟨fun heq => htarget ⟨a, ha, heq⟩, ?_⟩
        rw [← hs.path_eq a ha]
        exact hl a ha
      rw [hkept l hout, halike.entry l]
      rintro ⟨a, ha, heq | heq⟩
      · exact (hout a ha).1 heq
      · exact (hout a ha).2 heq
  · rw [hs.path_eq a ha]
    exact hemptied a ha
  · rw [hs.path_eq a ha]
    -- Direct writing makes a directory only on the way to a file.
    rcases hlaid.kept _ fun b _ => (Artifact.place_pathOf_ne_stagingPath d.here c e b.kind a.kind
      hs.no_slash hs.no_slash).symm with h1 | ⟨-, -, habove⟩
    · exact h1
    · obtain ⟨b, hb, hway⟩ := onWay_of_isAbove hs d.here _ habove
      exact absurd hway (hoff _ ⟨a, ha, Or.inr rfl⟩ b hb)

/-- If the staged files can be written, the two runs go alike up to the first move. -/
theorem runs_alike_of_canStage {r₁ r₂ : Except Failure Unit} {d₁ d₂ : Disk}
    (hs : Artifact.Siblings c e artifacts) (hcan : CanStage artifacts d)
    (hoff : ∀ l, IsTouched c e d.here artifacts l → ∀ a ∈ artifacts,
      ¬ Disk.OnWay d.here (Artifact.folder c a.kind) l)
    (hdirect : Runs (writeDirect artifacts) d r₁ d₁)
    (hstage : Runs (stageAll [] artifacts) d r₂ d₂) :
    r₁ = .ok () ∧ r₂ = .ok () ∧ Disk.Alike (IsTouched c e d.here artifacts) d₁ d₂ ∨
      r₁ ≠ .ok () ∧ r₂ ≠ .ok () := by
  have hfits : ∀ a ∈ artifacts, Disk.Fits (stagingPath (Artifact.pathOf c a.kind e)) :=
    fun a ha => hs.path_eq a ha ▸ hcan.fits a ha
  have hstart : Parallel c e artifacts d.here d d := by
    refine ⟨rfl, Disk.Alike.refl _ d, fun a ha => ?_⟩
    rw [← hs.path_eq a ha]
    exact hcan.free a ha
  obtain ⟨r₁', d₁', r₂', d₂', hrun₁, hrun₂, hpost⟩ := runs_alike hs d.here hoff hfits [] artifacts
    (fun a ha => ha) hstart
  obtain ⟨rfl, rfl⟩ := hdirect.unique hrun₁
  obtain ⟨rfl, rfl⟩ := hstage.unique hrun₂
  exact hpost

/-- Staged writing succeeds exactly if direct writing does and the staged files can be written, and
then both leave the same. -/
theorem modes_agree (t : Table) (c : Config) (artifacts : List Artifact)
    (hplan : Artifact.plan t c = .ok artifacts) (d : Disk) :
    ∃ r₁ d₁ r₂ d₂, Runs (write .direct artifacts) d r₁ d₁ ∧
      Runs (write .staged artifacts) d r₂ d₂ ∧
      (r₂ = .ok () ↔ r₁ = .ok () ∧ CanStage artifacts d) ∧
      (r₁ = .ok () → r₂ = .ok () → SameButStaged artifacts d d₁ d₂) := by
  have hs := Artifact.siblings_of_plan t c artifacts hplan
  obtain ⟨r₁, d₁, hdirect, hlaid, -⟩ := runs_writeDirect hs [] artifacts rfl (Laid.nil c _ _ d)
  obtain ⟨r, d₂, hstage, hstaged⟩ :=
    runs_stageAll hs [] artifacts rfl (Staged.nil c t.entityName artifacts d)
  cases r with
  -- Staging has failed. Where it can be done and direct writing succeeds, it could not have.
  | error f =>
    refine ⟨r₁, d₁, .error f, d₂, hdirect, hstage.bind_error, ⟨by simp, ?_⟩, by simp⟩
    rintro ⟨hr₁, hcan⟩
    have hl := hlaid hr₁
    have hoff := off_way_of_canStage hs hcan hl.here hl.folder fun a ha => by
      rw [hl.laid a ha]
      simp
    rcases runs_alike_of_canStage hs hcan hoff hdirect hstage with ⟨-, h, -⟩ | ⟨h, -⟩
    · exact absurd h (by simp)
    · exact absurd hr₁ h
  -- Staging has succeeded, so it can be done, and direct writing goes along with it.
  | ok u =>
    have hcan := Staged.canStage hstaged hs
    have hoff := off_way_of_canStage hs hcan hstaged.here hstaged.folder hstaged.target
    obtain ⟨d₃, hcommit, hmoved⟩ := runs_commit artifacts hs fun a ha => hstaged.ready ha
    rcases runs_alike_of_canStage hs hcan hoff hdirect hstage with ⟨hr₁, -, halike⟩ | ⟨-, h⟩
    · refine ⟨r₁, d₁, .ok (), d₃, hdirect, hstage.bind hcommit, ?_, fun _ _ => ?_⟩
      · exact ⟨fun _ => ⟨hr₁, hcan⟩, fun _ => rfl⟩
      · exact sameButStaged hs hoff (hlaid hr₁) hstaged halike hmoved
    · exact absurd rfl h

def fooTable : Table := Table.ofColumns "foo" [⟨"label", "string"⟩]

theorem checkNames_fooTable : fooTable.checkNames = .ok () := by decide

theorem entityName_fooTable : fooTable.entityName = "Foo" := by decide

theorem modes_agree_fooTable :
    ∃ r₁ d₁ r₂ d₂,
      Runs (write .direct (ArtifactKind.all.map (Artifact.planned fooTable ⟨"com.acme", ⟨"out"⟩⟩)))
        Disk.fresh r₁ d₁ ∧
      Runs (write .staged (ArtifactKind.all.map (Artifact.planned fooTable ⟨"com.acme", ⟨"out"⟩⟩)))
        Disk.fresh r₂ d₂ ∧
      (r₂ = .ok () ↔ r₁ = .ok () ∧
        CanStage (ArtifactKind.all.map (Artifact.planned fooTable ⟨"com.acme", ⟨"out"⟩⟩))
          Disk.fresh) ∧
      (r₁ = .ok () → r₂ = .ok () →
        SameButStaged (ArtifactKind.all.map (Artifact.planned fooTable ⟨"com.acme", ⟨"out"⟩⟩))
          Disk.fresh d₁ d₂) :=
  modes_agree fooTable ⟨"com.acme", ⟨"out"⟩⟩ _
    (Artifact.plan_of_valid fooTable _ checkNames_fooTable (by decide)) Disk.fresh

/-- A configuration whose base path leads through the place where the entity is staged, and out of
it again. -/
def windingConfig : Config := ⟨"pkg", ⟨"b/pkg/domain/.Foo.java.crudforge-tmp/../../.."⟩⟩

theorem stem_home_windingConfig : (Artifact.home windingConfig).stem =
    ["b", "pkg", "domain", ".Foo.java.crudforge-tmp", "..", "..", "..", "pkg"] := by
  decide

theorem entry_of_fresh (l : Location) (entry : Entry) (h : Disk.fresh.entry? l = some entry) :
    entry = .directory ∧ (l = [] ∨ l = ["work", "base"] ∨ l = ["base"]) := by
  cases l with
  | nil => exact ⟨(Option.some.inj h).symm, Or.inl rfl⟩
  | cons n rest =>
    simp only [Disk.entry?, Disk.entryIn, Disk.fresh, List.lookup_cons, List.lookup_nil] at h
    split at h
    · rename_i heq
      exact ⟨(Option.some.inj h).symm, Or.inr (Or.inl (by simpa using heq))⟩
    · split at h
      · rename_i heq
        exact ⟨(Option.some.inj h).symm, Or.inr (Or.inr (by simpa using heq))⟩
      · exact absurd h (by simp)

/-- On a fresh disk no directory is in the place of a file. -/
theorem not_directory_fresh (l : Location) (hl : Artifact.IsFilePlace l) :
    Disk.fresh.entry? l ≠ some .directory := by
  intro hdir
  obtain ⟨n, hhead, hdot⟩ := hl
  have hnames : n = "work" ∨ n = "base" := by
    rcases (entry_of_fresh l _ hdir).2 with rfl | rfl | rfl
    · simp at hhead
    · exact Or.inl (Option.some.inj hhead).symm
    · exact Or.inr (Option.some.inj hhead).symm
  rcases hnames with rfl | rfl <;> exact absurd hdot (by decide)

theorem fits_winding (k : ArtifactKind) :
    Disk.Fits (stagingPath (Artifact.pathOf windingConfig k "Foo")) := by
  apply Artifact.fits_stagingPath windingConfig k "Foo" (by decide)
  · rw [stem_home_windingConfig]
    cases k <;> decide
  · rw [stem_home_windingConfig]
    cases k <;> decide

/-- The way to each file leads through the name of a staged one. -/
theorem body_folder_winding (k : ArtifactKind) :
    (Artifact.folder windingConfig k).body =
      ["b", "pkg", "domain", ".Foo.java.crudforge-tmp", "..", "..", "..", "pkg"] ++ k.layer := by
  rw [Artifact.body_folder, stem_home_windingConfig]
  rfl

theorem origin_folder_winding (here : Location) (k : ArtifactKind) :
    Disk.origin here (Artifact.folder windingConfig k) = here := by
  have hanchor : (Artifact.home windingConfig).anchor = .relative := by decide
  rw [Artifact.origin_folder, Disk.origin, hanchor]
  rfl

/-- No file of the table is on the way to the directory of one, which leads through other names. -/
theorem off_way_winding (j k : ArtifactKind) :
    ¬ Disk.OnWay Disk.fresh.here (Artifact.folder windingConfig k)
      (Disk.place Disk.fresh.here (Artifact.pathOf windingConfig j "Foo")) := by
  have he : '/' ∉ "Foo".toList := by decide
  intro hway
  have hplace := Artifact.place_pathOf Disk.fresh.here windingConfig "Foo" j he
  rcases Artifact.onWay_folder Disk.fresh.here windingConfig .entity k _ hway with h | ⟨n, hn, h⟩
  · obtain ⟨front, hfront, heq⟩ := h
    rw [body_folder_winding, ← List.mem_inits] at hfront
    -- No part of the way ends in the name of a file, as can be seen from all of its parts.
    have hheads : ∀ front ∈ (["b", "pkg", "domain", ".Foo.java.crudforge-tmp", "..", "..", "..",
        "pkg"] ++ ArtifactKind.entity.layer).inits,
        (Disk.reach ["work", "base"] front).head? ≠ some (j.fileName "Foo") := by
      cases j <;> decide
    apply hheads front hfront
    rw [origin_folder_winding] at heq
    rw [show ["work", "base"] = Disk.fresh.here from rfl, ← heq, hplace, List.head?_cons]
  · rw [hplace, List.head?_cons, Option.some.injEq] at h
    refine k.no_dot_of_mem_layer n hn ?_
    rw [← h]
    simp [ArtifactKind.fileName]

/-- If the base path leads through a name in the directory of the entity and out of it again, then
what has this name there is on the way to that directory. -/
theorem onWay_of_stem (here : Location) (c : Config) (n : String) (hn : Path.IsName n)
    (hanchor : (Artifact.home c).anchor = .relative)
    (hstem : (Artifact.home c).stem = ["b", "pkg", "domain", n, "..", "..", "..", "pkg"]) :
    Disk.OnWay here (Artifact.folder c .entity)
      (n :: Disk.place here (Artifact.folder c .entity)) := by
  have hbody : (Artifact.folder c .entity).body =
      ["b", "pkg", "domain", n, "..", "..", "..", "pkg", "domain"] := by
    rw [Artifact.body_folder, hstem]
    rfl
  have horigin : Disk.origin here (Artifact.folder c .entity) = here := by
    rw [Artifact.origin_folder, Disk.origin, hanchor]
    rfl
  refine ⟨["b", "pkg", "domain", n], ?_, ?_⟩
  · rw [hbody]
    exact ⟨["..", "..", "..", "pkg", "domain"], rfl⟩
  · rw [Disk.place, horigin, hbody]
    simp [Disk.reach, Disk.enter, Path.isIdle, hn.ne_empty, hn.ne_dot, hn.ne_dots]

/-- The place where the entity is staged is on the way to it. -/
theorem onWay_staged_winding :
    Disk.OnWay Disk.fresh.here (Artifact.pathOf windingConfig .entity "Foo")
      (Disk.place Disk.fresh.here
        (stagingPath (Artifact.pathOf windingConfig .entity "Foo"))) := by
  have he : '/' ∉ "Foo".toList := by decide
  have hname := ArtifactKind.isName_stagingName .entity "Foo" he
  rw [Artifact.stagingPath_pathOf _ _ _ he, Artifact.pathOf_eq_child,
    Disk.onWay_child_iff _ _ _ (ArtifactKind.isName_fileName _ _ he),
    Disk.place_child _ _ _ hname]
  exact Or.inl (onWay_of_stem _ windingConfig _ hname (by decide) stem_home_windingConfig)

/-- It is not enough that no staging path leads to a directory and none is too long. -/
theorem modes_disagree_on_the_way :
    ¬ ∀ (t : Table) (c : Config) (artifacts : List Artifact) (d : Disk),
      Artifact.plan t c = .ok artifacts →
      ((∃ d', Runs (write .staged artifacts) d (.ok ()) d') ↔
        (∃ d', Runs (write .direct artifacts) d (.ok ()) d') ∧
          (∀ a ∈ artifacts, d.isDirectory (stagingPath a.path) = false) ∧
          ∀ a ∈ artifacts, Disk.Fits (stagingPath a.path)) := by
  intro hclaim
  have hplan :=
    Artifact.plan_of_valid fooTable windingConfig checkNames_fooTable (by decide)
  have hs := Artifact.siblings_of_plan _ _ _ hplan
  rw [entityName_fooTable] at hs
  have he := hs.no_slash
  have hpath := hs.path_eq
  -- Written in their places, the files are in nobody's way.
  have hdirect : CanWrite windingConfig "Foo"
      (ArtifactKind.all.map (Artifact.planned fooTable windingConfig)) Disk.fresh := by
    refine ⟨fun a _ => ?_, fun a _ l _ bytes hfile => ?_, fun a _ => ?_, fun a _ b _ => ?_⟩
    · exact Artifact.fits_pathOf windingConfig a.kind "Foo" he (fits_winding a.kind)
    · exact absurd (entry_of_fresh l _ hfile).1 (by simp)
    · exact not_directory_fresh _ (Artifact.isFilePlace_pathOf _ _ _ a.kind he)
    · exact off_way_winding a.kind b.kind
  have hstaged := (hclaim _ _ _ Disk.fresh hplan).mpr
    ⟨(writeDirect_ok_iff hs Disk.fresh).mpr hdirect, fun a ha => ?_, fun a ha => ?_⟩
  · -- But the entity is staged where the way to all of them leads through.
    obtain ⟨d', hrun⟩ := hstaged
    have hcan := canStage_of_writeStaged hs hrun
    have hmem : Artifact.planned fooTable windingConfig .entity ∈
        ArtifactKind.all.map (Artifact.planned fooTable windingConfig) :=
      List.mem_map_of_mem (by decide)
    apply hcan.off_way _ hmem _ hmem
    rw [hpath _ hmem]
    exact onWay_staged_winding
  · rw [← Bool.not_eq_true, Disk.isDirectory_iff, hpath a ha]
    intro hopen
    exact not_directory_fresh _ (Artifact.isFilePlace_stagingPath _ _ _ a.kind he)
      hopen.directory_place
  · rw [hpath a ha]
    exact fits_winding a.kind

end CrudLayer.Emission
