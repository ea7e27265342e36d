import Mathlib
import CrudLayer.Disk.Machine
import CrudLayer.Proofs.Operations

namespace CrudLayer
namespace Disk

/-- Directories were added where nothing was, at these places only. -/
structure Grows (d d' : Disk) (added : Location → Prop) : Prop where
  here : d'.here = d.here
  entry : ∀ l, d'.entry? l = d.entry? l ∨
    d.entry? l = none ∧ d'.entry? l = some .directory ∧ added l

namespace Grows

variable {d d' d'' : Disk} {added : Location → Prop}

theorem refl (d : Disk) (added : Location → Prop) : d.Grows d added :=
  ⟨rfl, fun _ => Or.inl rfl⟩

theorem trans (h : d.Grows d' added) (h' : d'.Grows d'' added) : d.Grows d'' added := by
  refine ⟨h'.here.trans h.here, fun l => ?_⟩
  rcases h'.entry l with h1 | ⟨h1, h2, h3⟩
  · rw [h1]
    exact h.entry l
  · rcases h.entry l with h4 | ⟨-, h5, -⟩
    · exact Or.inr ⟨h4 ▸ h1, h2, h3⟩
    · exact absurd (h1.symm.trans h5) (by simp)

theorem mono {more : Location → Prop} (h : d.Grows d' added) (hm : ∀ l, added l → more l) :
    d.Grows d' more :=
  ⟨h.here, fun l => (h.entry l).imp_right fun ⟨h1, h2, h3⟩ => ⟨h1, h2, hm l h3⟩⟩

theorem directory (h : d.Grows d' added) (l : Location) (hl : d.entry? l = some .directory) :
    d'.entry? l = some .directory := by
  rcases h.entry l with h1 | ⟨-, h2, -⟩
  · exact h1.trans hl
  · exact h2

theorem file_iff (h : d.Grows d' added) (l : Location) (bytes : ByteArray) :
    d'.entry? l = some (.file bytes) ↔ d.entry? l = some (.file bytes) := by
  rcases h.entry l with h1 | ⟨h1, h2, -⟩
  · rw [h1]
  · simp [h1, h2]

theorem of_sets {l : Location} (h : d.Sets d' l (some .directory)) (hfree : d.entry? l = none)
    (hl : added l) : d.Grows d' added := by
  refine ⟨h.here, fun l' => ?_⟩
  by_cases heq : l' = l
  · subst heq
    exact Or.inr ⟨hfree, h.at, hl⟩
  · exact Or.inl (h.of_ne heq)

end Grows

/-- Two disks that differ at most in which files are at some places. -/
structure Alike (differ : Location → Prop) (d₁ d₂ : Disk) : Prop where
  here : d₁.here = d₂.here
  entry : ∀ l, ¬ differ l → d₁.entry? l = d₂.entry? l
  directory_iff : ∀ l, d₁.entry? l = some .directory ↔ d₂.entry? l = some .directory

namespace Alike

variable {differ : Location → Prop} {d₁ d₂ d₁' d₂' : Disk}

theorem refl (differ : Location → Prop) (d : Disk) : Alike differ d d :=
  ⟨rfl, fun _ _ => rfl, fun _ => Iff.rfl⟩

/-- Whether a directory is at a path does not depend on the files. -/
theorem open_iff (h : Alike differ d₁ d₂) (p : Path) : d₁.Open p ↔ d₂.Open p :=
  ⟨fun hp => hp.of_directories h.here.symm fun l => (h.directory_iff l).mp,
    fun hp => hp.of_directories h.here fun l => (h.directory_iff l).mpr⟩

theorem symm (h : Alike differ d₁ d₂) : Alike differ d₂ d₁ :=
  ⟨h.here.symm, fun l hl => (h.entry l hl).symm, fun l => (h.directory_iff l).symm⟩

/-- One disk gets a file at a place where they may differ, and where no directory is. -/
theorem set_file (h : Alike differ d₁ d₂) {l : Location} {bytes : ByteArray}
    (hset : d₁.Sets d₁' l (some (.file bytes))) (hl : differ l)
    (hdir : d₁.entry? l ≠ some .directory) : Alike differ d₁' d₂ := by
  refine ⟨hset.here.trans h.here, fun l' hl' => ?_, fun l' => ?_⟩
  · have hne : l' ≠ l := by
      intro heq
      exact hl' (heq ▸ hl)
    rw [hset.of_ne hne, h.entry l' hl']
  · by_cases heq : l' = l
    · rw [heq, hset.at, ← h.directory_iff l]
      simp [hdir]
    · rw [hset.of_ne heq, h.directory_iff l']

theorem sets (h : Alike differ d₁ d₂) {l : Location} {e : Option Entry} (h₁ : d₁.Sets d₁' l e)
    (h₂ : d₂.Sets d₂' l e) : Alike differ d₁' d₂' := by
  refine ⟨by rw [h₁.here, h₂.here, h.here], fun l' hl' => ?_, fun l' => ?_⟩
  · by_cases heq : l' = l
    · rw [heq, h₁.at, h₂.at]
    · rw [h₁.of_ne heq, h₂.of_ne heq, h.entry l' hl']
  · by_cases heq : l' = l
    · rw [heq, h₁.at, h₂.at]
    · rw [h₁.of_ne heq, h₂.of_ne heq, h.directory_iff l']

end Alike

def ensure (d : Disk) (p : Path) : Except FileError Unit × Disk :=
  match d.makeDirectory p with
  | .ok d' => (.ok (), d')
  | .error e => (if d.isDirectory p then .ok () else .error e, d)

def ensureFirst (d : Disk) : List Path → Except FileError Unit × Disk
  | [] => (.error (.other "failed to create whole tree"), d)
  | p :: above =>
    if p.isEmpty then (.ok (), d)
    else
      match d.makeDirectory p with
      | .error .missing =>
        match d.ensureFirst above with
        | (.ok (), d') => d'.ensure p
        | (.error e, d') => (.error e, d')
      | _ => d.ensure p

/-- A directory whose parent is missing is tried again after the parent. -/
theorem ensureFirst_missing (d : Disk) (p : Path) (above : List Path) (hp : p.isEmpty = false)
    (hmiss : d.makeDirectory p = .error .missing) :
    d.ensureFirst (p :: above) =
      match d.ensureFirst above with
      | (.ok (), d') => d'.ensure p
      | (.error e, d') => (.error e, d') := by
  rw [ensureFirst, hp, hmiss]
  rfl

theorem ensureFirst_not_missing (d : Disk) (p : Path) (above : List Path)
    (hp : p.isEmpty = false) (hmiss : d.makeDirectory p ≠ .error .missing) :
    d.ensureFirst (p :: above) = d.ensure p := by
  rw [ensureFirst, hp]
  cases hmake : d.makeDirectory p with
  | ok d' => rfl
  | error e =>
    cases e with
    | missing => exact absurd hmake hmiss
    | _ => rfl

theorem ensure_grows (d : Disk) (p : Path) :
    d.Grows (d.ensure p).2 (· = place d.here p) := by
  unfold ensure
  cases hmake : d.makeDirectory p with
  | ok d' =>
    obtain ⟨hfree, hsets, -⟩ := makeDirectory_ok d d' p hmake
    exact Grows.of_sets hsets hfree rfl
  | error e => exact Grows.refl d _

theorem ensure_open (d : Disk) (p : Path) (h : (d.ensure p).1 = .ok ()) :
    (d.ensure p).2.Open p := by
  unfold ensure at h ⊢
  cases hmake : d.makeDirectory p with
  | ok d' => exact (makeDirectory_ok d d' p hmake).2.2
  | error e =>
    rw [hmake] at h
    by_cases hdir : d.isDirectory p = true
    · exact (isDirectory_iff d p).mp hdir
    · simp [hdir] at h

/-- Making a directory goes alike on both disks if they differ nowhere on its way. -/
theorem ensure_congr {differ : Location → Prop} {d₁ d₂ : Disk} (h : Alike differ d₁ d₂) (p : Path)
    (hway : ∀ l, OnWay d₁.here p l → ¬ differ l) :
    (d₁.ensure p).1 = (d₂.ensure p).1 ∧ Alike differ (d₁.ensure p).2 (d₂.ensure p).2 := by
  have hmake := makeDirectory_congr p h.here fun l hl => h.entry l (hway l hl)
  unfold ensure
  cases h₁ : d₁.makeDirectory p with
  | error e =>
    have hdir : d₁.isDirectory p = d₂.isDirectory p := by
      rw [Bool.eq_iff_iff, isDirectory_iff, isDirectory_iff]
      exact h.open_iff p
    rw [(hmake e).mp h₁, hdir]
    exact ⟨rfl, h⟩
  | ok d₁' =>
    cases h₂ : d₂.makeDirectory p with
    | error e => exact absurd (h₁.symm.trans ((hmake e).mpr h₂)) (by simp)
    | ok d₂' =>
      have hsets₁ := (makeDirectory_ok d₁ d₁' p h₁).2.1
      have hsets₂ := (makeDirectory_ok d₂ d₂' p h₂).2.1
      rw [← h.here] at hsets₂
      exact ⟨rfl, h.sets hsets₁ hsets₂⟩

/-- Making directories adds some at their places and changes nothing else. -/
theorem ensureFirst_grows (d : Disk) (ps : List Path) :
    d.Grows (d.ensureFirst ps).2 fun l => ∃ p ∈ ps, l = place d.here p := by
  induction ps generalizing d with
  | nil => exact Grows.refl d _
  | cons p above ih =>
    by_cases hp : p.isEmpty = true
    · rw [ensureFirst, if_pos hp]
      exact Grows.refl d _
    have hempty : p.isEmpty = false := by simpa using hp
    -- Only a missing directory sends the work on to the paths above.
    by_cases hmiss : d.makeDirectory p = .error .missing
    · have habove : d.Grows (d.ensureFirst above).2 fun l => ∃ q ∈ p :: above, l = place d.here q :=
        (ih d).mono fun l ⟨q, hq, hl⟩ => ⟨q, List.mem_cons_of_mem p hq, hl⟩
      rw [ensureFirst_missing d p above hempty hmiss]
      rcases hrun : d.ensureFirst above with ⟨⟨e⟩ | ⟨⟨⟩⟩, d'⟩
      · rwa [hrun] at habove
      · rw [hrun] at habove
        refine habove.trans ((ensure_grows d' p).mono fun l hl => ?_)
        exact ⟨p, List.mem_cons_self, hl.trans (by rw [habove.here])⟩
    · rw [ensureFirst_not_missing d p above hempty hmiss]
      exact (ensure_grows d p).mono fun l hl => ⟨p, List.mem_cons_self, hl⟩

/-- Once it is made, the directory is there with all that it is in. -/
theorem ensureFirst_open (d : Disk) (p : Path) (above : List Path) (hp : p.isEmpty = false)
    (h : (d.ensureFirst (p :: above)).1 = .ok ()) : (d.ensureFirst (p :: above)).2.Open p := by
  by_cases hmiss : d.makeDirectory p = .error .missing
  · rw [ensureFirst_missing d p above hp hmiss] at h ⊢
    rcases hrun : d.ensureFirst above with ⟨⟨e⟩ | ⟨⟨⟩⟩, d'⟩
    · simp [hrun] at h
    · rw [hrun] at h
      exact ensure_open d' p h
  · rw [ensureFirst_not_missing d p above hp hmiss] at h ⊢
    exact ensure_open d p h

/-- What comes of making directories does not depend on files that are not on the way to them. -/
theorem ensureFirst_congr {differ : Location → Prop} {d₁ d₂ : Disk} (h : Alike differ d₁ d₂)
    (ps : List Path) (hway : ∀ p ∈ ps, ∀ l, OnWay d₁.here p l → ¬ differ l) :
    (d₁.ensureFirst ps).1 = (d₂.ensureFirst ps).1 ∧
      Alike differ (d₁.ensureFirst ps).2 (d₂.ensureFirst ps).2 := by
  induction ps generalizing d₁ d₂ with
  | nil => exact ⟨rfl, h⟩
  | cons p above ih =>
    by_cases hp : p.isEmpty = true
    · rw [ensureFirst, ensureFirst, if_pos hp, if_pos hp]
      exact ⟨rfl, h⟩
    have hempty : p.isEmpty = false := by simpa using hp
    have hpway := hway p List.mem_cons_self
    have hmake := makeDirectory_congr p h.here fun l hl => h.entry l (hpway l hl)
    by_cases hmiss : d₁.makeDirectory p = .error .missing
    · -- If the parent is missing on one disk it is on the other, and both make it first.
      rw [ensureFirst_missing d₁ p above hempty hmiss,
        ensureFirst_missing d₂ p above hempty ((hmake _).mp hmiss)]
      obtain ⟨hsame, halike⟩ := ih h fun q hq => hway q (List.mem_cons_of_mem p hq)
      have hhere := (ensureFirst_grows d₁ above).here
      rcases hrun₁ : d₁.ensureFirst above with ⟨r₁, d₁'⟩
      rcases hrun₂ : d₂.ensureFirst above with ⟨r₂, d₂'⟩
      rw [hrun₁] at hsame halike hhere
      rw [hrun₂] at hsame halike
      obtain rfl : r₁ = r₂ := hsame
      cases r₁ with
      | error e => exact ⟨rfl, halike⟩
      | ok u =>
        refine ensure_congr halike p fun l hl => hpway l ?_
        rwa [hhere] at hl
    · rw [ensureFirst_not_missing d₁ p above hempty hmiss,
        ensureFirst_not_missing d₂ p above hempty fun h₂ => hmiss ((hmake _).mpr h₂)]
      exact ensure_congr h p hpway

end Disk

namespace Machine

theorem run_change (f : Disk → Except FileError Disk) (m : Machine) :
    (change f).run m = pure (match f m.disk with
      | .ok d => (.ok (), { m with disk := d })
      | .error e => (.error e, m)) := by
  unfold change
  cases h : f m.disk with
  | ok d => simp [h]
  | error e => simp [h]

variable {f : Disk → Except FileError Disk} {d d' : Disk}

theorem run_change_ok (h : f d = .ok d') (input : ByteArray) :
    (change f).run ⟨d, input⟩ = pure (.ok (), ⟨d', input⟩) := by
  rw [run_change]
  simp only [h]

theorem run_change_error {e : FileError} (h : f d = .error e) (input : ByteArray) :
    (change f).run ⟨d, input⟩ = pure (.error e, ⟨d, input⟩) := by
  rw [run_change]
  simp only [h]

end Machine

theorem Files.run_makeDirectory (p : Path) (m : Machine) :
    (Files.makeDirectory p : StateM Machine (Except FileError Unit)).run m =
      pure (match m.disk.makeDirectory p with
        | .ok d => (.ok (), { m with disk := d })
        | .error e => (.error e, m)) :=
  Machine.run_change (·.makeDirectory p) m

theorem Files.run_isDirectory (p : Path) (m : Machine) :
    (Files.isDirectory p : StateM Machine Bool).run m = pure (m.disk.isDirectory p, m) := rfl

/-- On a machine, making directories is `ensureFirst`. -/
theorem Files.run_makeFirst (ps : List Path) (m : Machine) :
    (Files.makeFirst ps : StateM Machine (Except FileError Unit)).run m =
      pure ((m.disk.ensureFirst ps).1, { m with disk := (m.disk.ensureFirst ps).2 }) := by
  induction ps generalizing m with
  | nil => rfl
  | cons p above ih =>
    unfold Files.makeFirst
    by_cases hp : p.isEmpty = true
    · simp [hp, Disk.ensureFirst]
    have hempty : p.isEmpty = false := by simpa using hp
    by_cases hmiss : m.disk.makeDirectory p = .error .missing
    · rw [Disk.ensureFirst_missing _ p above hempty hmiss]
      rcases hrun : m.disk.ensureFirst above with ⟨⟨e⟩ | ⟨⟨⟩⟩, d'⟩
      · simp [hempty, Files.run_makeDirectory, hmiss, ih, hrun]
      · cases hmake : d'.makeDirectory p with
        | ok d'' =>
          simp [hempty, Files.run_makeDirectory, hmiss, ih, hrun, hmake, Disk.ensure]
        | error e =>
          by_cases hdir : d'.isDirectory p = true <;>
            simp [hempty, Files.run_makeDirectory, Files.run_isDirectory, hmiss, ih, hrun, hmake,
              hdir, Disk.ensure]
    · rw [Disk.ensureFirst_not_missing _ p above hempty hmiss]
      cases hmake : m.disk.makeDirectory p with
      | ok d' => simp [hempty, Files.run_makeDirectory, hmake, Disk.ensure]
      | error e =>
        have hne : e ≠ .missing := by
          rintro rfl
          exact hmiss hmake
        by_cases hdir : m.disk.isDirectory p = true <;> cases e <;>
          simp_all [Files.run_makeDirectory, Files.run_isDirectory, Disk.ensure]

end CrudLayer
