import Mathlib
import CrudLayer.Proofs.Modes

namespace CrudLayer

/-- The same is at every place, and relative paths start from the same. -/
structure Disk.Same (d d' : Disk) : Prop where
  here : d.here = d'.here
  entry : ∀ l, d.entry? l = d'.entry? l

namespace Emission

open Logged

variable {mode : EmissionMode} {c : Config} {e e' : String} {a : Artifact} {d d' d'' : Disk}
  {artifacts as bs : List Artifact}

structure CanEmit (mode : EmissionMode) (c : Config) (e : String) (artifacts : List Artifact)
    (d : Disk) : Prop where
  write : CanWrite c e artifacts d
  stage : mode = .staged → CanStage artifacts d

inductive Settles (mode : EmissionMode) (artifacts : List Artifact) (here : Location) :
    Location → Option Entry → Prop
  | target {a : Artifact} (ha : a ∈ artifacts) :
    Settles mode artifacts here (Disk.place here a.path) (some (.file a.content.toUTF8))
  | staging {a : Artifact} (hmode : mode = .staged) (ha : a ∈ artifacts) :
    Settles mode artifacts here (Disk.place here (stagingPath a.path)) none
  | above {l : Location} (hl : IsAbove here artifacts l) :
    Settles mode artifacts here l (some .directory)

/-- The disk `d'` is `d` after a run: what the run settles is so, and all else is as it was. -/
structure Settled (mode : EmissionMode) (c : Config) (artifacts : List Artifact) (d d' : Disk) :
    Prop where
  here : d'.here = d.here
  entry : ∀ l v, Settles mode artifacts d.here l v → d'.entry? l = v
  kept : ∀ l, (∀ v, ¬ Settles mode artifacts d.here l v) → d'.entry? l = d.entry? l
  folder : ∀ a ∈ artifacts, d'.Open (Artifact.folder c a.kind)

section Runs

variable (hs : Artifact.Siblings c e artifacts)

include hs

/-- The places above the files are directories where the directories of the files are there. -/
theorem directory_of_isAbove (hfolder : ∀ a ∈ artifacts, d.Open (Artifact.folder c a.kind))
    (l : Location) (hl : IsAbove d.here artifacts l) : d.entry? l = some .directory := by
  obtain ⟨b, hb, hway⟩ := onWay_of_isAbove hs d.here l hl
  exact (hfolder b hb).directory l hway

/-- Direct writing settles the files and the directories above them. -/
theorem settled_of_laid
    (h : Laid c (fun k => Artifact.pathOf c k e) artifacts d d' artifacts) :
    Settled .direct c artifacts d d' := by
  refine ⟨h.here, fun l v hv => ?_, fun l hl => ?_, h.folder⟩
  · cases hv with
    | target ha =>
      rw [hs.path_eq _ ha]
      exact h.laid _ ha
    | staging hmode _ => exact absurd hmode (by simp)
    | above hl =>
      rw [← h.here] at hl
      exact directory_of_isAbove hs h.folder l hl
  · have hout : ∀ a ∈ artifacts, l ≠ Disk.place d.here (Artifact.pathOf c a.kind e) := by
      intro a ha heq
      rw [← hs.path_eq a ha] at heq
      exact hl _ (heq ▸ Settles.target ha)
    -- A directory that is new would be settled, being above one of the files.
    rcases h.kept l hout with hsame | ⟨-, -, habove⟩
    · exact hsame
    · exact absurd (Settles.above habove) (hl _)

theorem settled_of_moved (h : Staged c e artifacts d d' artifacts)
    (hm : Moved c e artifacts d' d'') : Settled .staged c artifacts d d'' := by
  have hfilled := hm.filled
  have hemptied := hm.emptied
  have hkept := hm.kept
  rw [h.here] at hfilled hemptied hkept
  have hhere : d''.here = d.here := hm.here.trans h.here
  have hfolder : ∀ a ∈ artifacts, d''.Open (Artifact.folder c a.kind) := by
    intro a ha
    apply (h.folder a ha).of_directories hm.here
    exact fun l hl => (hkept l (h.apart_of_directory l hl)).trans hl
  refine ⟨hhere, fun l v hv => ?_, fun l hl => ?_, hfolder⟩
  · cases hv with
    | target ha =>
      rw [hs.path_eq _ ha]
      exact hfilled _ ha
    | staging _ ha =>
      rw [hs.path_eq _ ha]
      exact hemptied _ ha
    | above hl =>
      rw [← hhere] at hl
      exact directory_of_isAbove hs hfolder l hl
  · -- What is not settled is neither the place of a file nor where one was staged.
    have hout : ∀ a ∈ artifacts, l ≠ Disk.place d.here (Artifact.pathOf c a.kind e) ∧
        l ≠ Disk.place d.here (stagingPath (Artifact.pathOf c a.kind e)) := by
      intro a ha
      rw [← hs.path_eq a ha]
      exact ⟨fun heq => hl _ (heq ▸ Settles.target ha),
        fun heq => hl _ (heq ▸ Settles.staging rfl ha)⟩
    rw [hkept l hout]
    rcases h.kept l fun a ha => (hout a ha).2 with hsame | ⟨-, -, habove⟩
    · exact hsame
    · exact absurd (Settles.above habove) (hl _)

/-- All files can be staged exactly if they can be written and there is room to stage them. -/
theorem stageAll_ok_iff {r : Except Failure Unit}
    (hrun : Runs (stageAll [] artifacts) d r d')
    (hstaged : r = .ok () → Staged c e artifacts d d' artifacts) :
    r = .ok () ↔ CanWrite c e artifacts d ∧ CanStage artifacts d := by
  obtain ⟨r₁, d₁, hdirect, hlaid, hcan⟩ := runs_writeDirect hs [] artifacts rfl (Laid.nil c _ _ d)
  -- Direct writing from the same disk goes the same way, and when it succeeds is known.
  constructor
  · intro hr
    have hst := hstaged hr
    have hroom := hst.canStage hs
    have hoff := off_way_of_canStage hs hroom hst.here hst.folder hst.target
    rcases runs_alike_of_canStage hs hroom hoff hdirect hrun with ⟨hr₁, -, -⟩ | ⟨-, hnot⟩
    · exact ⟨(hlaid hr₁).canWrite hs, hroom⟩
    · exact absurd hr hnot
  · rintro ⟨hwrite, hroom⟩
    have hr₁ := hcan hwrite
    have hl := hlaid hr₁
    have hoff := off_way_of_canStage hs hroom hl.here hl.folder fun a ha => by
      rw [hl.laid a ha]
      simp
    rcases runs_alike_of_canStage hs hroom hoff hdirect hrun with ⟨-, hr, -⟩ | ⟨hnot, -⟩
    · exact hr
    · exact absurd hr₁ hnot

/-- Writing files succeeds exactly if the disk allows it, and then settles what it has to. -/
theorem runs_write (mode : EmissionMode) (d : Disk) :
    ∃ r d', Runs (write mode artifacts) d r d' ∧
      (r = .ok () ↔ CanEmit mode c e artifacts d) ∧
      (r = .ok () → Settled mode c artifacts d d') := by
  cases mode with
  | direct =>
    obtain ⟨r, d', hrun, hlaid, hcan⟩ := runs_writeDirect hs [] artifacts rfl (Laid.nil c _ _ d)
    refine ⟨r, d', hrun, ⟨fun hr => ⟨(hlaid hr).canWrite hs, by simp⟩, fun h => hcan h.write⟩, ?_⟩
    exact fun hr => settled_of_laid hs (hlaid hr)
  -- If all files can be staged they can be moved, so staging decides.
  | staged =>
    obtain ⟨r, d₁, hstage, hpost⟩ := runs_stageAll hs [] artifacts rfl (Staged.nil c e artifacts d)
    have hiff := stageAll_ok_iff hs hstage fun hr => by
      rw [hr] at hpost
      exact hpost
    have hcan : CanEmit .staged c e artifacts d ↔ CanWrite c e artifacts d ∧ CanStage artifacts d :=
      ⟨fun h => ⟨h.write, h.stage rfl⟩, fun h => ⟨h.1, fun _ => h.2⟩⟩
    rw [← hcan] at hiff
    cases r with
    | error f =>
      exact ⟨.error f, d₁, hstage.bind_error, hiff, fun hr => absurd hr (by simp)⟩
    | ok u =>
      obtain ⟨d₂, hcommit, hmoved⟩ := runs_commit artifacts hs fun a ha => hpost.ready ha
      exact ⟨.ok (), d₂, hstage.bind hcommit, hiff, fun _ => settled_of_moved hs hpost hmoved⟩

end Runs

/-- A file in its place can be read by its path, once its directory is there. -/
theorem read_of_entry (hs : Artifact.Siblings c e artifacts) (ha : a ∈ artifacts)
    (hfits : Disk.Fits (Artifact.pathOf c a.kind e)) (hopen : d.Open (Artifact.folder c a.kind))
    (hentry : d.entry? (Disk.place d.here a.path) = some (.file a.content.toUTF8)) :
    d.read a.path = .ok a.content.toUTF8 := by
  rw [hs.path_eq a ha] at hentry ⊢
  exact ((spots_pathOf c e hs.no_slash).hasFolder hopen).read hfits hentry

namespace Settled

section Directories

variable (hcan : CanEmit mode c e artifacts d) (hs : Artifact.Siblings c e artifacts)
  (h : Settled mode c artifacts d d')

include hcan hs h

/-- No directory comes or goes but above the files. -/
theorem directory_iff (l : Location) (hl : ¬ IsAbove d.here artifacts l) :
    d'.entry? l = some .directory ↔ d.entry? l = some .directory := by
  by_cases hsettled : ∃ v, Settles mode artifacts d.here l v
  · obtain ⟨v, hv⟩ := hsettled
    have hnew := h.entry l v hv
    cases hv with
    | target ha =>
      have hfree := hcan.write.free _ ha
      rw [← hs.path_eq _ ha] at hfree
      simp [hnew, hfree]
    | staging hmode ha => simp [hnew, (hcan.stage hmode).free _ ha]
    | above habove => exact absurd habove hl
  · rw [h.kept l fun v hv => hsettled ⟨v, hv⟩]

theorem read (ha : a ∈ artifacts) : d'.read a.path = .ok a.content.toUTF8 := by
  apply read_of_entry hs ha (hcan.write.fits a ha) (h.folder a ha)
  rw [h.here]
  exact h.entry _ _ (Settles.target ha)

end Directories

/-- A second run of the same changes nothing. -/
theorem again (h : Settled mode c artifacts d d') (h' : Settled mode c artifacts d' d'') :
    d'.Same d'' := by
  refine ⟨h'.here.symm, fun l => ?_⟩
  have hkept := h'.kept l
  have hentry := h'.entry l
  rw [h.here] at hkept hentry
  by_cases hsettled : ∃ v, Settles mode artifacts d.here l v
  · obtain ⟨v, hv⟩ := hsettled
    rw [h.entry l v hv, hentry v hv]
  · exact (hkept fun v hv => hsettled ⟨v, hv⟩).symm

end Settled

/-- Each of one run's files has one of the other's kind. -/
theorem exists_kind (hkinds : as.map (·.kind) = bs.map (·.kind)) (ha : a ∈ as) :
    ∃ b ∈ bs, b.kind = a.kind := by
  have hmem : a.kind ∈ bs.map (·.kind) := hkinds ▸ List.mem_map_of_mem ha
  exact List.mem_map.mp hmem

section Two

variable (hsa : Artifact.Siblings c e as) (hsb : Artifact.Siblings c e' bs)
  (hkinds : as.map (·.kind) = bs.map (·.kind))

include hsa hkinds

/-- A place above the files of one run is on the way to the directory of one of the other's. -/
theorem onWay_of_isAbove_other (here l : Location) (hl : IsAbove here as l) :
    ∃ b ∈ bs, Disk.OnWay here (Artifact.folder c b.kind) l := by
  obtain ⟨a, ha, hway⟩ := onWay_of_isAbove hsa here l hl
  obtain ⟨b, hb, hkind⟩ := exists_kind hkinds ha
  exact ⟨b, hb, hkind ▸ hway⟩

include hsb

/-- No directory is needed where a file of another table is staged. -/
theorem CanStage.not_isAbove (h : CanStage bs d) (b : Artifact) (hb : b ∈ bs) :
    ¬ IsAbove d.here as (Disk.place d.here (stagingPath b.path)) := by
  intro habove
  obtain ⟨b', hb', hway⟩ := onWay_of_isAbove_other hsa hkinds _ _ habove
  apply h.off_way b hb b' hb'
  rw [hsb.path_eq b' hb', Artifact.pathOf_eq_child]
  exact (Disk.onWay_child_iff _ _ _ (b'.kind.isName_fileName e' hsb.no_slash) _).mpr (Or.inl hway)

omit hsb in
/-- Nor where one of its files belongs. -/
theorem CanWrite.not_isAbove (h : CanWrite c e' bs d) (b : Artifact) (hb : b ∈ bs) :
    ¬ IsAbove d.here as (Disk.place d.here (Artifact.pathOf c b.kind e')) := by
  intro habove
  obtain ⟨b', hb', hway⟩ := onWay_of_isAbove_other hsa hkinds _ _ habove
  exact h.off_way b hb b' hb' hway

/-- What one run needs is there on another disk too, if no file is in the way of its directories
there and no directory has come in but above the files of the other run. -/
theorem CanEmit.transfer (h : CanEmit mode c e' bs d) (hhere : d'.here = d.here)
    (hclear : ∀ b ∈ bs, d'.Clear (Artifact.folder c b.kind))
    (hdirs : ∀ l, ¬ IsAbove d.here as l → d'.entry? l = some .directory →
      d.entry? l = some .directory) : CanEmit mode c e' bs d' := by
  refine ⟨⟨h.write.fits, hclear, fun b hb => ?_, ?_⟩, fun hmode => ?_⟩
  · rw [hhere]
    intro hdir
    exact h.write.free b hb (hdirs _ (h.write.not_isAbove hsa hkinds b hb) hdir)
  · rw [hhere]
    exact h.write.off_way
  · have hroom := h.stage hmode
    refine ⟨hroom.fits, fun b hb => ?_, ?_⟩
    · rw [hhere]
      intro hdir
      exact hroom.free b hb (hdirs _ (hroom.not_isAbove hsa hsb hkinds b hb) hdir)
    · rw [hhere]
      exact hroom.off_way

/-- After one run has succeeded, another can succeed exactly if it could before. -/
theorem Settled.canEmit_iff (hcan : CanEmit mode c e as d) (h : Settled mode c as d d') :
    CanEmit mode c e' bs d' ↔ CanEmit mode c e' bs d := by
  have hdir := h.directory_iff hcan hsa
  constructor
  · intro hother
    apply hother.transfer hsa hsb hkinds h.here.symm
    · intro b hb
      obtain ⟨a, ha, hkind⟩ := exists_kind hkinds.symm hb
      exact hkind ▸ hcan.write.clear a ha
    · intro l hl
      rw [h.here] at hl
      exact (hdir l hl).mpr
  · intro hother
    apply hother.transfer hsa hsb hkinds h.here
    · -- The directories of all files are there now, so no file can be in their way.
      intro b hb l hl bytes hfile
      obtain ⟨a, ha, hkind⟩ := exists_kind hkinds.symm hb
      have hopen := h.folder a ha
      rw [hkind] at hopen
      rw [hopen.directory l hl] at hfile
      exact absurd hfile (by simp)
    · exact fun l hl => (hdir l hl).mp

end Two

end Emission
end CrudLayer
