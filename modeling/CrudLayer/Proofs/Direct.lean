import Mathlib
import CrudLayer.Proofs.Ensuring
import CrudLayer.Proofs.Laying

namespace CrudLayer.Emission

open Logged

variable {c : Config} {e : String} {a : Artifact} {d d' d'' : Disk} {artifacts : List Artifact}

/-- What direct writing needs: no path is too long, no file is on the way to a directory, no
directory is in the place of a file, and none of these places is on the way to a directory. -/
structure CanWrite (c : Config) (e : String) (artifacts : List Artifact) (d : Disk) : Prop where
  fits : ∀ a ∈ artifacts, Disk.Fits (Artifact.pathOf c a.kind e)
  clear : ∀ a ∈ artifacts, d.Clear (Artifact.folder c a.kind)
  free : ∀ a ∈ artifacts,
    d.entry? (Disk.place d.here (Artifact.pathOf c a.kind e)) ≠ some .directory
  off_way : ∀ a ∈ artifacts, ∀ b ∈ artifacts,
    ¬ Disk.OnWay d.here (Artifact.folder c b.kind)
      (Disk.place d.here (Artifact.pathOf c a.kind e))

/-- The directory of a file can be made if there is room for the file and no file is on the way. -/
theorem ensureFirst_pathOf (k : ArtifactKind) (he : '/' ∉ e.toList)
    (hfit : Disk.Fits (Artifact.pathOf c k e)) (hclear : d.Clear (Artifact.folder c k)) :
    (d.ensureFirst (Artifact.pathOf c k e).parents).1 = .ok () := by
  rw [Artifact.pathOf_eq_child] at hfit
  have hfolder := Disk.fits_of_child _ _ (k.isName_fileName e he) (Artifact.isEmpty_folder c k) hfit
  rw [Artifact.parents_pathOf c k e he]
  exact (Disk.ensureFirst_down_iff d _ _ k.isName_of_mem_layer k.layer_ne_nil).mpr ⟨hfolder, hclear⟩

/-- A directory that a file needs can still be made after others were written. -/
theorem CanWrite.ensureFirst (h : CanWrite c e artifacts d) (he : '/' ∉ e.toList)
    {done : List Artifact} (hsub : ∀ b ∈ done, b ∈ artifacts)
    (hlaid : Laid c (fun k => Artifact.pathOf c k e) artifacts d d' done) (ha : a ∈ artifacts) :
    (d'.ensureFirst (Artifact.pathOf c a.kind e).parents).1 = .ok () := by
  refine ensureFirst_pathOf a.kind he (h.fits a ha) fun l hl bytes hfile => ?_
  rw [hlaid.here] at hl
  have hout : ∀ b ∈ done, l ≠ Disk.place d.here (Artifact.pathOf c b.kind e) := by
    intro b hb heq
    exact h.off_way b (hsub b hb) a ha (heq ▸ hl)
  exact h.clear a ha l hl bytes ((hlaid.file_iff l hout bytes).mp hfile)

/-- No directory is in the place of a file then: one would have been there from the start, or be
on the way to a file. -/
theorem CanWrite.free_laid (h : CanWrite c e artifacts d) (hs : Artifact.Siblings c e artifacts)
    {done : List Artifact} (hnew : ∀ b ∈ done, b.kind ≠ a.kind)
    (hlaid : Laid c (fun k => Artifact.pathOf c k e) artifacts d d' done) (ha : a ∈ artifacts) :
    d'.entry? (Disk.place d'.here (Artifact.pathOf c a.kind e)) ≠ some .directory := by
  rw [hlaid.here]
  intro hdir
  have hout : ∀ b ∈ done, Disk.place d.here (Artifact.pathOf c a.kind e) ≠
      Disk.place d.here (Artifact.pathOf c b.kind e) := fun b hb =>
    (Artifact.pathOf_apart d.here c e hs.no_slash (hnew b hb).symm).1
  rcases hlaid.kept _ hout with h1 | ⟨-, -, habove⟩
  · exact h.free a ha (h1.symm.trans hdir)
  · obtain ⟨b, hb, hway⟩ := onWay_of_isAbove hs d.here _ habove
    exact h.off_way a ha b hb hway

/-- Files that are written in their places are laid there, and all of them can be if the disk that
the run started from allows it. -/
theorem runs_writeDirect (hs : Artifact.Siblings c e artifacts) (done rest : List Artifact)
    (hsplit : done ++ rest = artifacts)
    (h : Laid c (fun k => Artifact.pathOf c k e) artifacts d d' done) :
    ∃ r d'', Runs (writeDirect rest) d' r d'' ∧
      (r = .ok () → Laid c (fun k => Artifact.pathOf c k e) artifacts d d'' artifacts) ∧
      (CanWrite c e artifacts d → r = .ok ()) := by
  -- One file after the other: `Laid` says what is there once those of `done` are written.
  induction rest generalizing done d' with
  | nil =>
    rw [List.append_nil] at hsplit
    exact ⟨.ok (), d', runs_pure () d', fun _ => hsplit ▸ h, fun _ => rfl⟩
  | cons a rest ih =>
    have he := hs.no_slash
    have ha : a ∈ artifacts := by simp [← hsplit]
    have hsub : ∀ b ∈ done, b ∈ artifacts := fun b hb => by simp [← hsplit, hb]
    have hpath := hs.path_eq a ha
    obtain ⟨r, d₁, hparent, -, hiff, hgrows, hopen⟩ := runs_ensureParent_mem hs ha h.here
    have h₁ := h.grows hgrows
    cases r with
    | error f =>
      refine ⟨.error f, d₁, hparent.bind_error, by simp, fun hcan => ?_⟩
      have hok := hcan.ensureFirst he hsub h ha
      rw [← hpath] at hok
      exact absurd (hiff.mpr hok) (by simp)
    | ok u =>
      have hspots := spots_pathOf c e he
      have hin := hspots.hasFolder (hopen rfl)
      cases hw : d₁.write a.path a.content.toUTF8 with
      | error fault =>
        refine ⟨_, d₁, hparent.bind (runs_write_error hw).bind_error, by simp, fun hcan => ?_⟩
        have hfree := hcan.free_laid hs (hs.kind_ne hsplit) h₁ ha
        obtain ⟨d₂, hw', -⟩ := hin.write (hcan.fits a ha) hfree a.content.toUTF8
        rw [← hpath, hw] at hw'
        exact absurd hw' (by simp)
      | ok d₂ =>
        rw [hpath] at hw
        obtain ⟨hfit, hfree, hsets⟩ := hin.of_write hw
        have h₂ := h₁.write hspots (hopen rfl) hfit hfree (hs.kind_ne hsplit) hsets
        obtain ⟨r, d₃, hrun, hpost⟩ := ih (done ++ [a]) (by simp [← hsplit]) h₂
        rw [← hpath] at hw
        exact ⟨r, d₃, hparent.bind ((runs_write_ok hw).bind ((runs_record _ d₂).bind hrun)), hpost⟩

theorem Laid.canWrite (hs : Artifact.Siblings c e artifacts)
    (h : Laid c (fun k => Artifact.pathOf c k e) artifacts d d' artifacts) :
    CanWrite c e artifacts d := by
  have he := hs.no_slash
  refine ⟨h.fits, fun a ha l hl bytes hfile => ?_, h.free, fun a ha b hb hway => ?_⟩
  · rw [← h.here] at hl
    have hdir := (h.folder a ha).directory l hl
    have hout : ∀ b ∈ artifacts, l ≠ Disk.place d.here (Artifact.pathOf c b.kind e) := by
      intro b hb heq
      rw [heq, h.laid b hb] at hdir
      exact absurd hdir (by simp)
    rw [(h.file_iff l hout bytes).mpr hfile] at hdir
    exact absurd hdir (by simp)
  · rw [← h.here] at hway
    refine Artifact.not_onWay_folder c (h.folder a ha) ?_ ?_ b.kind hway
    · exact Artifact.isFilePlace_pathOf d'.here c e a.kind he
    · rw [h.here, h.laid a ha]
      simp

/-- The disk that direct writing starts from decides whether it succeeds. -/
theorem writeDirect_ok_iff (hs : Artifact.Siblings c e artifacts) (d : Disk) :
    (∃ d', Runs (writeDirect artifacts) d (.ok ()) d') ↔ CanWrite c e artifacts d := by
  constructor
  · rintro ⟨d', hrun⟩
    obtain ⟨r, d₁, hrun₁, hlaid, -⟩ := runs_writeDirect hs [] artifacts rfl (Laid.nil c _ _ d)
    obtain ⟨rfl, rfl⟩ := hrun.unique hrun₁
    exact (hlaid rfl).canWrite hs
  · intro h
    obtain ⟨r, d', hrun, -, hok⟩ := runs_writeDirect hs [] artifacts rfl (Laid.nil c _ _ d)
    exact ⟨d', hok h ▸ hrun⟩

end CrudLayer.Emission
