import Mathlib
import CrudLayer.Generation
import CrudLayer.Proofs.Hosts
import CrudLayer.Proofs.Laying
import CrudLayer.Proofs.Planning

/-!
Staged writing. All files are laid beside their places, or what was laid is removed again, and once
all of them are laid every one of them can be moved to its place.
-/
namespace CrudLayer.Emission

open Logged

variable {c : Config} {e : String} {a : Artifact} {d d' d'' : Disk}

theorem runs_stage_unreachable {f : Failure} (h : Runs (ensureParent a.path) d (.error f) d') :
    Runs (stage a) d (.error f) d' :=
  h.bind_error

theorem runs_stage_ok (h : Runs (ensureParent a.path) d (.ok ()) d')
    (hdir : d'.isDirectory a.path = false)
    (hw : d'.write (stagingPath a.path) a.content.toUTF8 = .ok d'') :
    Runs (stage a) d (.ok ()) d'' := by
  refine h.bind ((runs_isDirectory a.path d').bind ?_)
  rw [hdir]
  exact runs_write_ok hw

/-- A directory in the place of the file ends it before anything is written. -/
theorem runs_stage_directory (h : Runs (ensureParent a.path) d (.ok ()) d')
    (hdir : d'.isDirectory a.path = true) :
    Runs (stage a) d (.error (.io a.path .directoryAtArtifact)) d' := by
  refine h.bind ((runs_isDirectory a.path d').bind ?_)
  rw [hdir]
  exact (runs_throw _ d').bind_error

/-- A staged file that cannot be written ends it. -/
theorem runs_stage_refused (h : Runs (ensureParent a.path) d (.ok ()) d')
    (hdir : d'.isDirectory a.path = false) {fault : FileError}
    (hw : d'.write (stagingPath a.path) a.content.toUTF8 = .error fault) :
    Runs (stage a) d (.error (.io (stagingPath a.path) fault)) d' := by
  refine h.bind ((runs_isDirectory a.path d').bind ?_)
  rw [hdir]
  exact runs_write_error hw

/-- The disk `d'` is `d` with the files of `done` staged, and no directory where one of them
belongs. -/
structure Staged (c : Config) (e : String) (artifacts : List Artifact) (d d' : Disk)
    (done : List Artifact) : Prop extends
    Laid c (fun k => stagingPath (Artifact.pathOf c k e)) artifacts d d' done where
  target : ∀ a ∈ done,
    d'.entry? (Disk.place d.here (Artifact.pathOf c a.kind e)) ≠ some .directory

namespace Staged

variable {artifacts done : List Artifact}

theorem nil (c : Config) (e : String) (artifacts : List Artifact) (d : Disk) :
    Staged c e artifacts d d [] :=
  ⟨Laid.nil c _ artifacts d, by simp⟩

theorem grows (h : Staged c e artifacts d d' done) (hs : Artifact.Siblings c e artifacts)
    (hg : d'.Grows d'' (IsAbove d.here artifacts)) : Staged c e artifacts d d'' done := by
  refine ⟨h.toLaid.grows hg, fun a ha hdir => ?_⟩
  rcases hg.entry (Disk.place d.here (Artifact.pathOf c a.kind e)) with h1 | ⟨-, -, h1⟩
  · exact h.target a ha (h1.symm.trans hdir)
  · -- A new directory would be on the way to the file's own directory, which is there already.
    obtain ⟨b, -, hb⟩ := onWay_of_isAbove hs d.here _ h1
    rw [← h.here] at hb
    refine Artifact.not_onWay_folder c (h.folder a ha) ?_ ?_ b.kind hb
    · exact Artifact.isFilePlace_pathOf d'.here c e a.kind hs.no_slash
    · rw [h.here]
      exact h.target a ha

theorem write (h : Staged c e artifacts d d' done) (he : '/' ∉ e.toList)
    (hopen : d'.Open (Artifact.folder c a.kind))
    (hfit : Disk.Fits (stagingPath (Artifact.pathOf c a.kind e)))
    (hdir : d'.entry? (Disk.place d'.here (stagingPath (Artifact.pathOf c a.kind e))) ≠
      some .directory)
    (htarget : d'.entry? (Disk.place d'.here (Artifact.pathOf c a.kind e)) ≠ some .directory)
    (hnew : ∀ b ∈ done, b.kind ≠ a.kind)
    (hsets : d'.Sets d'' (Disk.place d'.here (stagingPath (Artifact.pathOf c a.kind e)))
      (some (.file a.content.toUTF8))) :
    Staged c e artifacts d d'' (done ++ [a]) := by
  refine ⟨h.toLaid.write (spots_stagingPath c e he) hopen hfit hdir hnew hsets, ?_⟩
  intro b hb
  rw [← h.here, hsets.of_ne (Artifact.place_pathOf_ne_stagingPath d'.here c e b.kind a.kind he he)]
  rcases List.mem_append.mp hb with hb | hb
  · rw [h.here]
    exact h.target b hb
  · rw [List.mem_singleton.mp hb]
    exact htarget

end Staged

structure Cleared (c : Config) (e : String) (artifacts : List Artifact) (d d' : Disk) : Prop where
  here : d'.here = d.here
  gone : ∀ a ∈ artifacts,
    d'.entry? (Disk.place d.here (stagingPath (Artifact.pathOf c a.kind e))) = none
  kept : ∀ l, (∀ a ∈ artifacts,
    l ≠ Disk.place d.here (stagingPath (Artifact.pathOf c a.kind e))) → d'.entry? l = d.entry? l

theorem cleared_of_sets
    (h : d.Sets d' (Disk.place d.here (stagingPath (Artifact.pathOf c a.kind e))) none) :
    Cleared c e [a] d d' :=
  ⟨h.here, by simpa using h.at, fun l hl => h.of_ne (hl a (List.mem_singleton_self a))⟩

/-- Staged files are removed one after the other. -/
theorem Cleared.cons {rest : List Artifact} (h : Cleared c e [a] d d')
    (hrest : Cleared c e rest d' d'') : Cleared c e (a :: rest) d d'' := by
  have hgone := hrest.gone
  have hkept := hrest.kept
  rw [h.here] at hgone hkept
  refine ⟨hrest.here.trans h.here, ?_, ?_⟩
  · intro b hb
    -- What is at the place of a later one is gone in the end, whoever removed it.
    by_cases hother : ∃ b' ∈ rest, Disk.place d.here (stagingPath (Artifact.pathOf c b.kind e)) =
        Disk.place d.here (stagingPath (Artifact.pathOf c b'.kind e))
    · obtain ⟨b', hb', heq⟩ := hother
      rw [heq]
      exact hgone b' hb'
    · rcases List.mem_cons.mp hb with rfl | hb
      · rw [hkept _ fun b' hb' heq => hother ⟨b', hb', heq⟩]
        exact h.gone _ (List.mem_singleton_self _)
      · exact hgone b hb
  · intro l hl
    rw [hkept l fun b hb => hl b (List.mem_cons_of_mem a hb)]
    apply h.kept l
    simpa using hl a List.mem_cons_self

/-- Staged files that are there can all be removed. -/
theorem runs_discard (artifacts : List Artifact) (hs : Artifact.Siblings c e artifacts)
    (hfolder : ∀ a ∈ artifacts, d.Open (Artifact.folder c a.kind))
    (hfits : ∀ a ∈ artifacts, Disk.Fits (stagingPath (Artifact.pathOf c a.kind e)))
    (hfile : ∀ a ∈ artifacts, ∃ bytes,
      d.entry? (Disk.place d.here (stagingPath (Artifact.pathOf c a.kind e))) =
        some (.file bytes)) :
    ∃ d', Runs (discard artifacts) d (.ok ()) d' ∧ Cleared c e artifacts d d' := by
  induction artifacts generalizing d with
  | nil => exact ⟨d, runs_pure () d, rfl, by simp, fun _ _ => rfl⟩
  | cons a rest ih =>
    -- Removing the first keeps the staged files of the others and all directories.
    obtain ⟨hrest, hkind⟩ := hs.of_cons
    obtain ⟨bytes, hbytes⟩ := hfile a List.mem_cons_self
    have hin := (spots_stagingPath c e hs.no_slash).hasFolder (hfolder a List.mem_cons_self)
    obtain ⟨d₁, hremove, hsets⟩ := hin.remove (hfits a List.mem_cons_self) hbytes
    have hdirs : ∀ l, d.entry? l = some .directory → d₁.entry? l = some .directory := by
      intro l hl
      have hne : l ≠ Disk.place d.here (stagingPath (Artifact.pathOf c a.kind e)) := by
        intro heq
        rw [heq, hbytes] at hl
        simp at hl
      rwa [hsets.of_ne hne]
    obtain ⟨d₂, hrun, hclear⟩ := ih (d := d₁) hrest
      (fun b hb => (hfolder b (List.mem_cons_of_mem a hb)).of_directories hsets.here hdirs)
      (fun b hb => hfits b (List.mem_cons_of_mem a hb))
      (fun b hb => by
        have hapart := Artifact.stagingPath_apart d.here c e hs.no_slash (hkind b hb)
        rw [hsets.here, hsets.of_ne hapart.2]
        exact hfile b (List.mem_cons_of_mem a hb))
    rw [← hs.path_eq a List.mem_cons_self] at hremove
    exact ⟨d₂, (runs_remove hremove).bind hrun, (cleared_of_sets hsets).cons hclear⟩

/-- What a run that failed leaves: every file but staged ones as it was, and no file that is new. -/
structure Undone (artifacts : List Artifact) (d d' : Disk) : Prop where
  kept : ∀ l bytes, (∀ a ∈ artifacts, l ≠ Disk.place d.here (stagingPath a.path)) →
    d.entry? l = some (.file bytes) → d'.entry? l = some (.file bytes)
  no_new : ∀ l bytes, d'.entry? l = some (.file bytes) → d.entry? l = some (.file bytes)

theorem Undone.refl (artifacts : List Artifact) (d : Disk) : Undone artifacts d d :=
  ⟨fun _ _ _ h => h, fun _ _ h => h⟩

/-- Removing what is staged undoes the staging. -/
theorem Staged.undone {artifacts done : List Artifact} (h : Staged c e artifacts d d' done)
    (hs : Artifact.Siblings c e artifacts) (hsub : ∀ a ∈ done, a ∈ artifacts)
    (hc : Cleared c e done d' d'') : Undone artifacts d d'' := by
  have hgone := hc.gone
  have hkept := hc.kept
  rw [h.here] at hgone hkept
  refine ⟨fun l bytes hl hfile => ?_, fun l bytes hfile => ?_⟩
  · have hout : ∀ a ∈ done,
        l ≠ Disk.place d.here (stagingPath (Artifact.pathOf c a.kind e)) := by
      intro a ha
      rw [← hs.path_eq a (hsub a ha)]
      exact hl a (hsub a ha)
    rw [hkept l hout]
    exact (h.toLaid.file_iff l hout bytes).mpr hfile
  · -- What is a file afterwards is none that was removed.
    have hout : ∀ a ∈ done,
        l ≠ Disk.place d.here (stagingPath (Artifact.pathOf c a.kind e)) := by
      intro a ha heq
      rw [heq, hgone a ha] at hfile
      simp at hfile
    rw [hkept l hout] at hfile
    exact (h.toLaid.file_iff l hout bytes).mp hfile

/-- A file that cannot be staged ends the staging, and undoes it. -/
theorem runs_stageAll_undone {artifacts done rest : List Artifact} {f : Failure}
    (hs : Artifact.Siblings c e artifacts) (hsplit : done ++ a :: rest = artifacts)
    (h : Staged c e artifacts d d'' done) (hstage : Runs (stage a) d' (.error f) d'') :
    ∃ d₃, Runs (stageAll done (a :: rest)) d' (.error f) d₃ ∧ Undone artifacts d d₃ := by
  have hsub : ∀ b ∈ done, b ∈ artifacts := fun b hb => by simp [← hsplit, hb]
  have hdone : Artifact.Siblings c e done := by
    rw [← hsplit] at hs
    exact hs.of_append.1
  obtain ⟨d₃, hrun, hclear⟩ := runs_discard (d := d'') done hdone h.folder h.fits
    (fun b hb => ⟨_, h.here ▸ h.laid b hb⟩)
  refine ⟨d₃, ?_, h.undone hs hsub hclear⟩
  refine Runs.bind_error (hstage.tryCatch_error ?_)
  exact hrun.bind (runs_throw f d₃)

/-- Staging one more file adds it to those that are staged, or leaves these as they are. -/
theorem runs_stage {artifacts done : List Artifact} (hs : Artifact.Siblings c e artifacts)
    (ha : a ∈ artifacts) (hnew : ∀ b ∈ done, b.kind ≠ a.kind)
    (h : Staged c e artifacts d d' done) :
    ∃ r d'', Runs (stage a) d' r d'' ∧
      match r with
      | .ok () => Staged c e artifacts d d'' (done ++ [a])
      | .error _ => Staged c e artifacts d d'' done := by
  have he := hs.no_slash
  have hpath := hs.path_eq a ha
  obtain ⟨r, d₁, hparent, -, -, hgrows, hopen⟩ := runs_ensureParent_mem hs ha h.here
  have h₁ := h.grows hs hgrows
  cases r with
  | error f => exact ⟨.error f, d₁, runs_stage_unreachable hparent, h₁⟩
  | ok u =>
    have hfolder := hopen rfl
    -- A directory in the place of the file would stop the later move, so it stops the staging.
    by_cases hdir : d₁.isDirectory a.path = true
    · exact ⟨_, d₁, runs_stage_directory hparent hdir, h₁⟩
    rw [Bool.not_eq_true] at hdir
    cases hw : d₁.write (stagingPath a.path) a.content.toUTF8 with
    | error fault => exact ⟨_, d₁, runs_stage_refused hparent hdir hw, h₁⟩
    | ok d₂ =>
      refine ⟨.ok (), d₂, runs_stage_ok hparent hdir hw, ?_⟩
      rw [hpath] at hw hdir
      have hin := (spots_stagingPath c e he).hasFolder hfolder
      obtain ⟨hfit, hfree, hsets⟩ := hin.of_write hw
      -- The check above is made by looking the path up; the place itself is what the move needs.
      have htarget :
          d₁.entry? (Disk.place d₁.here (Artifact.pathOf c a.kind e)) ≠ some .directory := by
        intro hentry
        have hplace := ((spots_pathOf c e he).hasFolder hfolder).open_iff.mpr
          ⟨Artifact.fits_pathOf c a.kind e he hfit, hentry⟩
        rw [(Disk.isDirectory_iff d₁ _).mpr hplace] at hdir
        exact absurd hdir (by simp)
      exact h₁.write he hfolder hfit hfree htarget hnew hsets

/-- Either all files are staged, or nothing of the staging is left. -/
theorem runs_stageAll {artifacts : List Artifact} (hs : Artifact.Siblings c e artifacts)
    (done rest : List Artifact) (hsplit : done ++ rest = artifacts)
    (h : Staged c e artifacts d d' done) :
    ∃ r d'', Runs (stageAll done rest) d' r d'' ∧
      match r with
      | .ok () => Staged c e artifacts d d'' artifacts
      | .error _ => Undone artifacts d d'' := by
  -- `Staged` holds of what is staged so far, and a file that cannot be staged undoes all of it.
  induction rest generalizing done d' with
  | nil =>
    rw [List.append_nil] at hsplit
    exact ⟨.ok (), d', runs_pure () d', hsplit ▸ h⟩
  | cons a rest ih =>
    have ha : a ∈ artifacts := by simp [← hsplit]
    obtain ⟨r, d₁, hstage, hpost⟩ := runs_stage hs ha (hs.kind_ne hsplit) h
    cases r with
    | error f =>
      obtain ⟨d₂, hrun, hundone⟩ := runs_stageAll_undone hs hsplit hpost hstage
      exact ⟨.error f, d₂, hrun, hundone⟩
    | ok u =>
      obtain ⟨r, d₂, hrun, hpost'⟩ := ih (done ++ [a]) (by simp [← hsplit]) hpost
      exact ⟨r, d₂, hstage.tryCatch_ok.bind hrun, hpost'⟩

structure Waiting (c : Config) (e : String) (d : Disk) (a : Artifact) : Prop where
  folder : d.Open (Artifact.folder c a.kind)
  fits : Disk.Fits (stagingPath (Artifact.pathOf c a.kind e))
  staged : d.entry? (Disk.place d.here (stagingPath (Artifact.pathOf c a.kind e))) =
    some (.file a.content.toUTF8)

structure Ready (c : Config) (e : String) (d : Disk) (a : Artifact) : Prop where
  folder : d.Open (Artifact.folder c a.kind)
  fits : Disk.Fits (stagingPath (Artifact.pathOf c a.kind e))
  staged : d.entry? (Disk.place d.here (stagingPath (Artifact.pathOf c a.kind e))) =
    some (.file a.content.toUTF8)
  target : d.entry? (Disk.place d.here (Artifact.pathOf c a.kind e)) ≠ some .directory

theorem Laid.waiting {artifacts done : List Artifact}
    (h : Laid c (fun k => stagingPath (Artifact.pathOf c k e)) artifacts d d' done)
    (ha : a ∈ done) : Waiting c e d' a := by
  refine ⟨h.folder a ha, h.fits a ha, ?_⟩
  rw [h.here]
  exact h.laid a ha

/-- A staged file can be moved to its place. -/
theorem Staged.ready {artifacts done : List Artifact} (h : Staged c e artifacts d d' done)
    (ha : a ∈ done) : Ready c e d' a := by
  have hwaiting := h.toLaid.waiting ha
  refine ⟨hwaiting.folder, hwaiting.fits, hwaiting.staged, ?_⟩
  rw [h.here]
  exact h.target a ha

structure Moved (c : Config) (e : String) (artifacts : List Artifact) (d d' : Disk) : Prop where
  here : d'.here = d.here
  filled : ∀ a ∈ artifacts, d'.entry? (Disk.place d.here (Artifact.pathOf c a.kind e)) =
    some (.file a.content.toUTF8)
  emptied : ∀ a ∈ artifacts,
    d'.entry? (Disk.place d.here (stagingPath (Artifact.pathOf c a.kind e))) = none
  kept : ∀ l, (∀ a ∈ artifacts, l ≠ Disk.place d.here (Artifact.pathOf c a.kind e) ∧
    l ≠ Disk.place d.here (stagingPath (Artifact.pathOf c a.kind e))) → d'.entry? l = d.entry? l

/-- Moving one staged file fills its place and empties that beside it, and nothing else changes. -/
theorem Ready.move (h : Ready c e d a) (he : '/' ∉ e.toList) :
    ∃ d', d.move (stagingPath (Artifact.pathOf c a.kind e)) (Artifact.pathOf c a.kind e) = .ok d' ∧
      Moved c e [a] d d' := by
  have hne := Artifact.place_pathOf_ne_stagingPath d.here c e a.kind a.kind he he
  obtain ⟨d₁, d₂, hmove, hput, hdrop⟩ :=
    ((spots_stagingPath c e he).hasFolder h.folder).move ((spots_pathOf c e he).hasFolder h.folder)
      h.fits (Artifact.fits_pathOf c a.kind e he h.fits) hne.symm h.staged h.target
  refine ⟨d₂, hmove, hdrop.here.trans hput.here, ?_, by simpa using hdrop.at, ?_⟩
  · simp only [List.mem_singleton, forall_eq]
    rw [hdrop.of_ne hne]
    exact hput.at
  · intro l hl
    obtain ⟨htarget, hstaging⟩ := hl a (List.mem_singleton_self a)
    rw [hdrop.of_ne hstaging, hput.of_ne htarget]

/-- A move takes no directory away. -/
theorem Ready.directory_of_moved (ha : Ready c e d a) (hm : Moved c e [a] d d') (l : Location)
    (hl : d.entry? l = some .directory) : d'.entry? l = some .directory := by
  rw [hm.kept l, hl]
  simp only [List.mem_singleton, forall_eq]
  refine ⟨fun heq => ha.target (heq ▸ hl), fun heq => ?_⟩
  rw [heq, ha.staged] at hl
  simp at hl

/-- A staged file stays where it is while another is moved. -/
theorem Waiting.of_moved {b : Artifact} (hb : Waiting c e d b) (ha : Ready c e d a)
    (he : '/' ∉ e.toList) (hne : b.kind ≠ a.kind) (hm : Moved c e [a] d d') :
    Waiting c e d' b := by
  refine ⟨hb.folder.of_directories hm.here (ha.directory_of_moved hm), hb.fits, ?_⟩
  rw [hm.here, hm.kept _ (by simpa using Artifact.stagingPath_apart d.here c e he hne)]
  exact hb.staged

theorem Ready.of_moved {b : Artifact} (hb : Ready c e d b) (ha : Ready c e d a)
    (he : '/' ∉ e.toList) (hne : b.kind ≠ a.kind) (hm : Moved c e [a] d d') : Ready c e d' b := by
  have hwaiting := Waiting.of_moved ⟨hb.folder, hb.fits, hb.staged⟩ ha he hne hm
  refine ⟨hwaiting.folder, hwaiting.fits, hwaiting.staged, ?_⟩
  rw [hm.here, hm.kept _ (by simpa using Artifact.pathOf_apart d.here c e he hne)]
  exact hb.target

/-- Staged files are moved one after the other. -/
theorem Moved.cons {rest : List Artifact} (he : '/' ∉ e.toList)
    (hkind : ∀ b ∈ rest, b.kind ≠ a.kind) (h : Moved c e [a] d d')
    (hrest : Moved c e rest d' d'') : Moved c e (a :: rest) d d'' := by
  have hfilled := hrest.filled
  have hemptied := hrest.emptied
  have hkept := hrest.kept
  rw [h.here] at hfilled hemptied hkept
  -- Files of other kinds are in other places, so the later moves leave the first one alone.
  refine ⟨hrest.here.trans h.here, ?_, ?_, ?_⟩
  · intro b hb
    rcases List.mem_cons.mp hb with rfl | hb
    · rw [hkept _ fun b' hb' => Artifact.pathOf_apart d.here c e he (hkind b' hb').symm]
      exact h.filled _ (List.mem_singleton_self _)
    · exact hfilled b hb
  · intro b hb
    rcases List.mem_cons.mp hb with rfl | hb
    · rw [hkept _ fun b' hb' => Artifact.stagingPath_apart d.here c e he (hkind b' hb').symm]
      exact h.emptied _ (List.mem_singleton_self _)
    · exact hemptied b hb
  · intro l hl
    rw [hkept l fun b hb => hl b (List.mem_cons_of_mem a hb)]
    apply h.kept l
    simpa using hl a List.mem_cons_self

/-- Moving files that can be moved does not fail. -/
theorem runs_commit (artifacts : List Artifact) (hs : Artifact.Siblings c e artifacts)
    (hready : ∀ a ∈ artifacts, Ready c e d a) :
    ∃ d', Runs (commit artifacts) d (.ok ()) d' ∧ Moved c e artifacts d d' := by
  induction artifacts generalizing d with
  | nil => exact ⟨d, runs_pure () d, rfl, by simp, by simp, fun _ _ => rfl⟩
  | cons a rest ih =>
    -- Moving the first keeps the others ready, so none of the moves that follow can fail.
    obtain ⟨hrest, hkind⟩ := hs.of_cons
    have ha := hready a List.mem_cons_self
    obtain ⟨d₁, hmove, hmoved⟩ := ha.move hs.no_slash
    obtain ⟨d₂, hrun, hmoved'⟩ := ih (d := d₁) hrest fun b hb =>
      (hready b (List.mem_cons_of_mem a hb)).of_moved ha hs.no_slash (hkind b hb) hmoved
    rw [← hs.path_eq a List.mem_cons_self] at hmove
    refine ⟨d₂, ?_, hmoved.cons hs.no_slash hkind hmoved'⟩
    exact (runs_move hmove).bind ((runs_record _ d₁).bind hrun)

/-- What a staged run that succeeded leaves: every file in its place with its content, none beside
its place, every other file as it was, and no directories but the old ones and those above the
files. -/
structure Emitted (artifacts : List Artifact) (d d' : Disk) : Prop where
  here : d'.here = d.here
  content : ∀ a ∈ artifacts, d'.read a.path = .ok a.content.toUTF8
  unstaged : ∀ a ∈ artifacts, d'.entry? (Disk.place d.here (stagingPath a.path)) = none
  other_files : ∀ l bytes, (∀ a ∈ artifacts, l ≠ Disk.place d.here a.path ∧
    l ≠ Disk.place d.here (stagingPath a.path)) →
    (d'.entry? l = some (.file bytes) ↔ d.entry? l = some (.file bytes))
  old_directories : ∀ l, d.entry? l = some .directory → d'.entry? l = some .directory
  new_directories : ∀ l, d'.entry? l = some .directory →
    d.entry? l = some .directory ∨ IsAbove d.here artifacts l

/-- After the staging no directory is in the place of a file or of a staged one. -/
theorem Staged.apart_of_directory {artifacts : List Artifact}
    (h : Staged c e artifacts d d' artifacts) (l : Location) (hl : d'.entry? l = some .directory) :
    ∀ a ∈ artifacts, l ≠ Disk.place d.here (Artifact.pathOf c a.kind e) ∧
      l ≠ Disk.place d.here (stagingPath (Artifact.pathOf c a.kind e)) := by
  intro a ha
  refine ⟨fun heq => h.target a ha (heq ▸ hl), fun heq => ?_⟩
  rw [heq] at hl
  exact absurd (hl.symm.trans (h.laid a ha)) (by simp)

/-- Nor is one there after the moves. -/
theorem Moved.apart_of_directory {artifacts : List Artifact} (h : Moved c e artifacts d d')
    (l : Location) (hl : d'.entry? l = some .directory) :
    ∀ a ∈ artifacts, l ≠ Disk.place d.here (Artifact.pathOf c a.kind e) ∧
      l ≠ Disk.place d.here (stagingPath (Artifact.pathOf c a.kind e)) := by
  intro a ha
  refine ⟨fun heq => ?_, fun heq => ?_⟩
  · rw [heq, h.filled a ha] at hl
    simp at hl
  · rw [heq, h.emptied a ha] at hl
    simp at hl

/-- Once all files are staged and moved, they are emitted. -/
theorem Staged.emitted {artifacts : List Artifact} (h : Staged c e artifacts d d' artifacts)
    (hs : Artifact.Siblings c e artifacts) (hm : Moved c e artifacts d' d'') :
    Emitted artifacts d d'' := by
  have he := hs.no_slash
  have hpath := hs.path_eq
  have hfilled := hm.filled
  have hemptied := hm.emptied
  have hkept := hm.kept
  have hapart := hm.apart_of_directory
  rw [h.here] at hfilled hemptied hkept hapart
  -- Only files are moved, so the directories stay.
  have hdirs : ∀ l, d'.entry? l = some .directory → d''.entry? l = some .directory :=
    fun l hl => (hkept l (h.apart_of_directory l hl)).trans hl
  refine ⟨hm.here.trans h.here, ?_, ?_, ?_, ?_, ?_⟩
  · intro a ha
    rw [hpath a ha]
    have hopen := (h.folder a ha).of_directories hm.here hdirs
    refine ((spots_pathOf c e he).hasFolder hopen).read ?_ ?_
    · exact Artifact.fits_pathOf c a.kind e he (h.fits a ha)
    · rw [hm.here, h.here]
      exact hfilled a ha
  · intro a ha
    rw [hpath a ha]
    exact hemptied a ha
  · -- Elsewhere the moves do nothing, and the staging has added directories at most.
    intro l bytes hl
    have hout : ∀ a ∈ artifacts, l ≠ Disk.place d.here (Artifact.pathOf c a.kind e) ∧
        l ≠ Disk.place d.here (stagingPath (Artifact.pathOf c a.kind e)) := by
      intro a ha
      rw [← hpath a ha]
      exact hl a ha
    rw [hkept l hout]
    exact h.toLaid.file_iff l (fun a ha => (hout a ha).2) bytes
  · exact fun l hl => hdirs l (h.toLaid.directory l hl)
  · intro l hl
    have hout := hapart l hl
    rw [hkept l hout] at hl
    rcases h.kept l fun a ha => (hout a ha).2 with h1 | ⟨-, -, h1⟩
    · exact Or.inl (h1.symm.trans hl)
    · exact Or.inr h1

/-- Staged writing writes all files or none. -/
theorem runs_writeStaged {artifacts : List Artifact} (hs : Artifact.Siblings c e artifacts)
    (d : Disk) :
    ∃ r d', Runs (writeStaged artifacts) d r d' ∧
      match r with
      | .ok () => Emitted artifacts d d'
      | .error _ => Undone artifacts d d' := by
  obtain ⟨r, d₁, hstage, hpost⟩ :=
    runs_stageAll hs [] artifacts rfl (Staged.nil c e artifacts d)
  cases r with
  | error f => exact ⟨.error f, d₁, hstage.bind_error, hpost⟩
  | ok u =>
    obtain ⟨d₂, hcommit, hmoved⟩ := runs_commit artifacts hs fun a ha => hpost.ready ha
    exact ⟨.ok (), d₂, hstage.bind hcommit, Staged.emitted hpost hs hmoved⟩

end CrudLayer.Emission

namespace CrudLayer

/-- The files of a plan are in the places that their kinds give them. -/
theorem Artifact.siblings_of_plan (t : Table) (c : Config) (artifacts : List Artifact)
    (h : Artifact.plan t c = .ok artifacts) : Artifact.Siblings c t.entityName artifacts := by
  have hkinds := Artifact.kinds_of_plan t c artifacts h
  obtain ⟨hnames, -, rfl⟩ := (Artifact.plan_eq_ok_iff t c artifacts).mp h
  refine ⟨Artifact.no_slash_entityName t hnames, ?_, ?_⟩
  · intro a ha
    obtain ⟨k, -, rfl⟩ := List.mem_map.mp ha
    rfl
  · rw [hkinds]
    decide

namespace Logged

theorem on_bind {ε α β : Type} (x : Logged ε (StateM Machine) α)
    (f : α → Logged ε (StateM Machine) β) (log : Log) (m : Machine) :
    (x >>= f).on log m =
      match x.on log m with
      | ((.ok a, log'), m') => (f a).on log' m'
      | ((.error e, log'), m') => ((.error e, log'), m') := by
  simp only [on, ExceptT.run_bind, StateT.run_bind, Id.run_bind]
  rcases ((x.run.run log).run m).run with ⟨⟨⟨e⟩ | ⟨a⟩, log'⟩, m'⟩ <;> rfl

theorem runs_ofExcept {ε α : Type} (r : Except ε α) (d : Disk) :
    Runs (ofExcept r : Logged ε (StateM Machine) α) d r d := fun log _ => ⟨log, rfl⟩

end Logged

theorem Changeset.keepsDisk_load (source : ChangesetSource) (log : Log) (m : Machine) :
    ((Changeset.load source : Logged Failure (StateM Machine) Table).on log m).2.disk = m.disk :=
  Host.still_load (n := StateM Machine) source log m

namespace Generation

open Logged Emission

theorem runs_recordFields (columns : List Column) (d : Disk) :
    Runs (recordFields columns) d (.ok ()) d := by
  induction columns with
  | nil => exact runs_pure () d
  | cons column rest ih => exact (runs_record _ d).bind ih

def ofTable (t : Table) (c : Config) (mode : EmissionMode) :
    Logged Failure (StateM Machine) GenerationReport := do
  Logged.record (.generating c t.name t.entityName)
  recordFields t.columns
  let artifacts ← Logged.ofExcept (Artifact.plan t c)
  Emission.write mode artifacts
  Logged.record (.generated artifacts.length)
  return ⟨t, artifacts, true⟩

/-- A run loads the table and then writes for it. -/
theorem run_eq_load_bind (source : ChangesetSource) (c : Config) (mode : EmissionMode) :
    run source c (some mode) = Changeset.load source >>= fun t => ofTable t c mode := rfl

theorem runs_ofTable_unplanned (t : Table) (c : Config) (mode : EmissionMode) (d : Disk)
    {f : Failure} (hplan : Artifact.plan t c = .error f) :
    Runs (ofTable t c mode) d (.error f) d := by
  have hplanned := runs_ofExcept (Artifact.plan t c) d
  rw [hplan] at hplanned
  refine (runs_record _ d).bind ((runs_recordFields _ d).bind ?_)
  rw [hplan]
  exact hplanned.bind_error

/-- Once there is a plan, only the writing can fail. -/
theorem runs_ofTable (t : Table) (c : Config) (mode : EmissionMode) {artifacts : List Artifact}
    (hplan : Artifact.plan t c = .ok artifacts) {d d' : Disk} {r : Except Failure Unit}
    (hwrite : Runs (Emission.write mode artifacts) d r d') :
    Runs (ofTable t c mode) d (r.map fun _ => ⟨t, artifacts, true⟩) d' := by
  have hplanned := runs_ofExcept (Artifact.plan t c) d
  rw [hplan] at hplanned
  refine (runs_record _ d).bind ((runs_recordFields _ d).bind ?_)
  rw [hplan]
  refine hplanned.bind ?_
  cases r with
  | error f => exact Runs.bind_error hwrite
  | ok u => exact Runs.bind (a := ()) hwrite ((runs_record _ d').bind (runs_pure _ d'))

theorem runs_staged_table (c : Config) (t : Table) (d : Disk) :
    ∃ r d', Runs (ofTable t c .staged) d r d' ∧
      match r with
      | .ok report => Artifact.plan report.table c = .ok report.artifacts ∧
          Emitted report.artifacts d d'
      | .error _ => ∃ artifacts, (artifacts = [] ∨ Artifact.plan t c = .ok artifacts) ∧
          Undone artifacts d d' := by
  cases hplan : Artifact.plan t c with
  | error f =>
    exact ⟨_, d, runs_ofTable_unplanned t c .staged d hplan, [], Or.inl rfl, Undone.refl [] d⟩
  | ok artifacts =>
    have hs := Artifact.siblings_of_plan t c artifacts hplan
    obtain ⟨r, d', hrun, hpost⟩ := runs_writeStaged hs d
    refine ⟨_, d', runs_ofTable t c .staged hplan hrun, ?_⟩
    cases r with
    | error f => exact ⟨artifacts, Or.inr rfl, hpost⟩
    | ok u => exact ⟨hplan, hpost⟩

/-- A staged run is all or nothing on files. One that fails leaves every file that is at no staging
path as it was and no file that is new, and one that succeeds leaves all files in their places, none
beside them, and changes no other. Once all of them are staged, none of the moves can fail. -/
theorem staged_all_or_nothing (source : ChangesetSource) (c : Config) (log : Log) (m : Machine) :
    (match (run source c (some .staged)).on log m with
      | ((.ok report, _), m') =>
        Artifact.plan report.table c = .ok report.artifacts ∧
          report.artifacts.map (·.kind) = ArtifactKind.all ∧
          Emitted report.artifacts m.disk m'.disk
      | ((.error _, _), m') =>
        ∃ artifacts,
          (artifacts = [] ∨ ∃ t log₁ m₁,
            (Changeset.load source).on log m = ((.ok t, log₁), m₁) ∧
              Artifact.plan t c = .ok artifacts) ∧
          Undone artifacts m.disk m'.disk) ∧
    ∀ t artifacts, Artifact.plan t c = .ok artifacts →
      ∀ d d₁, Runs (stageAll [] artifacts) d (.ok ()) d₁ →
        ∃ d₂, Runs (commit artifacts) d₁ (.ok ()) d₂ := by
  refine ⟨?_, fun t artifacts hplan d d₁ hstage => ?_⟩
  · have hdisk := Changeset.keepsDisk_load source log m
    rcases hload : (Changeset.load source).on log m with ⟨⟨⟨f⟩ | ⟨t⟩, log₁⟩, m₁⟩
    · have hwhole : (run source c (some .staged)).on log m = ((.error f, log₁), m₁) := by
        rw [run, on_bind, hload]
      rw [hload] at hdisk
      rw [hwhole]
      exact ⟨[], Or.inl rfl, hdisk ▸ Undone.refl [] m.disk⟩
    · -- Loading leaves the disk as it is.
      obtain ⟨r, d', hrun, hpost⟩ := runs_staged_table c t m₁.disk
      obtain ⟨log₂, hon⟩ := hrun log₁ m₁.input
      have hwhole : (run source c (some .staged)).on log m = ((r, log₂), ⟨d', m₁.input⟩) := by
        rw [run, on_bind, hload]
        exact hon
      rw [hload] at hdisk
      rw [hwhole, ← hdisk]
      cases r with
      | error f =>
        obtain ⟨artifacts, hor, hundone⟩ := hpost
        exact ⟨artifacts, hor.imp_right fun hplan => ⟨t, log₁, m₁, rfl, hplan⟩, hundone⟩
      | ok report =>
        obtain ⟨hplan, hemitted⟩ := hpost
        exact ⟨hplan, Artifact.kinds_of_plan report.table c _ hplan, hemitted⟩
  · -- Two runs that stage the same files come to one disk, and from there every file can be moved.
    have hs := Artifact.siblings_of_plan t c artifacts hplan
    obtain ⟨r, d₁', hrun, hpost⟩ :=
      runs_stageAll hs [] artifacts rfl (Staged.nil c t.entityName artifacts d)
    obtain ⟨rfl, rfl⟩ := hstage.unique hrun
    obtain ⟨d₂, hcommit, -⟩ := runs_commit artifacts hs fun a ha => hpost.ready ha
    exact ⟨d₂, hcommit⟩

end Generation
end CrudLayer
