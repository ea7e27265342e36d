import Mathlib
import CrudLayer.Proofs.Places
import CrudLayer.Proofs.Runs

/-!
Laying files down one after the other, each with the directories it has to be in. Both ways of
writing files do this: one lays each file in its place, the other lays all of them beside theirs
before it moves any.
-/
namespace CrudLayer.Emission

open Logged

/-- Where the file of each kind is laid: in its own directory under a name, and no two in one
place. -/
structure Spots (c : Config) (spot : ArtifactKind → Path) : Prop where
  child : ∀ k, ∃ n, Path.IsName n ∧ spot k = (Artifact.folder c k).down [n]
  injective : ∀ here, Function.Injective fun k => Disk.place here (spot k)

/-- Files can be laid in their places. -/
theorem spots_pathOf (c : Config) (e : String) (he : '/' ∉ e.toList) :
    Spots c fun k => Artifact.pathOf c k e := by
  refine ⟨fun k => ?_, fun here => Artifact.place_pathOf_injective here c e he⟩
  exact ⟨k.fileName e, k.isName_fileName e he, Artifact.pathOf_eq_child c k e⟩

theorem spots_stagingPath (c : Config) (e : String) (he : '/' ∉ e.toList) :
    Spots c fun k => stagingPath (Artifact.pathOf c k e) := by
  refine ⟨fun k => ?_, fun here => Artifact.place_stagingPath_injective here c e he⟩
  exact ⟨k.stagingName e, k.isName_stagingName e he, Artifact.stagingPath_pathOf c k e he⟩

theorem Spots.hasFolder {c : Config} {spot : ArtifactKind → Path} (hs : Spots c spot) {d : Disk}
    {k : ArtifactKind} (h : d.Open (Artifact.folder c k)) : d.HasFolder (spot k) := by
  obtain ⟨n, hn, hspot⟩ := hs.child k
  exact ⟨Artifact.folder c k, n, h, hn, hspot⟩

def IsAbove (here : Location) (artifacts : List Artifact) (l : Location) : Prop :=
  ∃ a ∈ artifacts, ∃ p ∈ a.path.parents, l = Disk.place here p

/-- The disk `d'` is `d` with the files of `done` laid, and with directories for the files of
`artifacts`. -/
structure Laid (c : Config) (spot : ArtifactKind → Path) (artifacts : List Artifact) (d d' : Disk)
    (done : List Artifact) : Prop where
  here : d'.here = d.here
  laid : ∀ a ∈ done, d'.entry? (Disk.place d.here (spot a.kind)) = some (.file a.content.toUTF8)
  free : ∀ a ∈ done, d.entry? (Disk.place d.here (spot a.kind)) ≠ some .directory
  fits : ∀ a ∈ done, Disk.Fits (spot a.kind)
  folder : ∀ a ∈ done, d'.Open (Artifact.folder c a.kind)
  kept : ∀ l, (∀ a ∈ done, l ≠ Disk.place d.here (spot a.kind)) →
    d'.entry? l = d.entry? l ∨
      d.entry? l = none ∧ d'.entry? l = some .directory ∧ IsAbove d.here artifacts l

namespace Laid

variable {c : Config} {spot : ArtifactKind → Path} {artifacts done : List Artifact}
  {d d' d'' : Disk}

theorem nil (c : Config) (spot : ArtifactKind → Path) (artifacts : List Artifact) (d : Disk) :
    Laid c spot artifacts d d [] :=
  ⟨rfl, by simp, by simp, by simp, by simp, fun _ _ => Or.inl rfl⟩

/-- No directory is gone after files were laid. -/
theorem directory (h : Laid c spot artifacts d d' done) (l : Location)
    (hl : d.entry? l = some .directory) : d'.entry? l = some .directory := by
  rcases h.kept l fun a ha heq => h.free a ha (heq ▸ hl) with h1 | ⟨h1, -, -⟩
  · exact h1.trans hl
  · exact absurd (h1.symm.trans hl) (by simp)

theorem file_iff (h : Laid c spot artifacts d d' done) (l : Location)
    (hl : ∀ a ∈ done, l ≠ Disk.place d.here (spot a.kind)) (bytes : ByteArray) :
    d'.entry? l = some (.file bytes) ↔ d.entry? l = some (.file bytes) := by
  rcases h.kept l hl with h1 | ⟨h1, h2, -⟩
  · rw [h1]
  · simp [h1, h2]

/-- More directories for the files change nothing for those that are laid. -/
theorem grows (h : Laid c spot artifacts d d' done) (hg : d'.Grows d'' (IsAbove d.here artifacts)) :
    Laid c spot artifacts d d'' done := by
  refine ⟨hg.here.trans h.here, ?_, h.free, h.fits, ?_, ?_⟩
  · exact fun a ha => (hg.file_iff _ _).mpr (h.laid a ha)
  · exact fun a ha => (h.folder a ha).of_directories hg.here hg.directory
  · intro l hl
    rcases h.kept l hl with h1 | ⟨h1, h2, h3⟩
    · rw [← h1]
      exact hg.entry l
    · exact Or.inr ⟨h1, hg.directory l h2, h3⟩

theorem write (h : Laid c spot artifacts d d' done) (hs : Spots c spot) {a : Artifact}
    (hopen : d'.Open (Artifact.folder c a.kind)) (hfit : Disk.Fits (spot a.kind))
    (hdir : d'.entry? (Disk.place d'.here (spot a.kind)) ≠ some .directory)
    (hnew : ∀ b ∈ done, b.kind ≠ a.kind)
    (hsets : d'.Sets d'' (Disk.place d'.here (spot a.kind)) (some (.file a.content.toUTF8))) :
    Laid c spot artifacts d d'' (done ++ [a]) := by
  rw [h.here] at hdir hsets
  have hdirs : ∀ l, d'.entry? l = some .directory → d''.entry? l = some .directory := by
    intro l hl
    have hne : l ≠ Disk.place d.here (spot a.kind) := by
      rintro rfl
      exact hdir hl
    rwa [hsets.of_ne hne]
  have hother : ∀ b ∈ done,
      Disk.place d.here (spot b.kind) ≠ Disk.place d.here (spot a.kind) := fun b hb heq =>
    hnew b hb (hs.injective d.here heq)
  -- What holds of the files laid before is kept, and the new one is in its place.
  refine ⟨hsets.here.trans h.here, ?_, ?_, ?_, ?_, ?_⟩
  · intro b hb
    rcases List.mem_append.mp hb with hb | hb
    · rw [hsets.of_ne (hother b hb)]
      exact h.laid b hb
    · rw [List.mem_singleton.mp hb]
      exact hsets.at
  · intro b hb
    rcases List.mem_append.mp hb with hb | hb
    · exact h.free b hb
    · rw [List.mem_singleton.mp hb]
      exact fun hl => hdir (h.directory _ hl)
  · intro b hb
    rcases List.mem_append.mp hb with hb | hb
    · exact h.fits b hb
    · rw [List.mem_singleton.mp hb]
      exact hfit
  · intro b hb
    rcases List.mem_append.mp hb with hb | hb
    · exact (h.folder b hb).of_directories hsets.here hdirs
    · rw [List.mem_singleton.mp hb]
      exact hopen.of_directories hsets.here hdirs
  · intro l hl
    rw [hsets.of_ne (hl a (by simp))]
    exact h.kept l fun b hb => hl b (by simp [hb])

end Laid

variable {c : Config} {e : String}

/-- Making the directory of a file adds directories above the files only, and that one is there if
it did not fail. -/
theorem runs_ensureParent_mem {artifacts : List Artifact} (hs : Artifact.Siblings c e artifacts)
    {a : Artifact} (ha : a ∈ artifacts) {here : Location} {d : Disk} (hhere : d.here = here) :
    ∃ r d', Runs (ensureParent a.path) d r d' ∧
      d' = (d.ensureFirst a.path.parents).2 ∧
      (r = .ok () ↔ (d.ensureFirst a.path.parents).1 = .ok ()) ∧
      d.Grows d' (IsAbove here artifacts) ∧
      (r = .ok () → d'.Open (Artifact.folder c a.kind)) := by
  have hparents := Artifact.parents_pathOf c a.kind e hs.no_slash
  rw [← hs.path_eq a ha] at hparents
  have hempty := Artifact.isEmpty_folder c a.kind
  -- The failure is that of the disk, with the path put to it.
  have hiff : (d.ensureFirst a.path.parents).1.mapError (Failure.io (Artifact.folder c a.kind)) =
      .ok () ↔ (d.ensureFirst a.path.parents).1 = .ok () := by
    cases (d.ensureFirst a.path.parents).1 <;> simp [Except.mapError]
  refine ⟨_, _, runs_ensureParent hparents hempty d, rfl, hiff, ?_, fun hr => ?_⟩
  · rw [← hhere]
    exact (Disk.ensureFirst_grows d _).mono fun l ⟨p, hp, hl⟩ => ⟨a, ha, p, hp, hl⟩
  · have hok := hiff.mp hr
    rw [hparents] at hok ⊢
    exact Disk.ensureFirst_open d _ _ hempty hok

/-- A place above one of the files is on the way to the directory of one. -/
theorem onWay_of_isAbove {artifacts : List Artifact} (hs : Artifact.Siblings c e artifacts)
    (here l : Location) (h : IsAbove here artifacts l) :
    ∃ a ∈ artifacts, Disk.OnWay here (Artifact.folder c a.kind) l := by
  obtain ⟨a, ha, p, hp, rfl⟩ := h
  rw [hs.path_eq a ha] at hp
  exact ⟨a, ha, Artifact.onWay_of_mem_parents here c e a.kind hs.no_slash p hp _
    (Disk.onWay_place here p)⟩

end CrudLayer.Emission
