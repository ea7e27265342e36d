import Mathlib
import CrudLayer.Proofs.TwoRuns
import CrudLayer.Proofs.Troubles

/-!
Staged writing that meets troubles. Whichever operation on files fails, the files that are staged by
then and not yet moved are removed again.
-/
namespace CrudLayer.Emission

open Logged Troubled

variable {T : Set Trouble} {c : Config} {e : String} {a : Artifact} {d d' d'' : Disk}
  {artifacts done : List Artifact}

/-- A place is as it was, or a directory was made there on the way to a file, where nothing was. -/
def AsBefore (artifacts : List Artifact) (d d' : Disk) (l : Location) : Prop :=
  d'.entry? l = d.entry? l ∨
    d.entry? l = none ∧ d'.entry? l = some .directory ∧ IsAbove d.here artifacts l

/-- The failure may be that of writing the file at the path, of which a part was written. -/
def MayBeCut (T : Set Trouble) (p : Path) (f : Failure) : Prop :=
  ∃ length fault, .cut length fault ∈ T ∧ f = .io p fault

/-- What a run of staged writing leaves that has failed with `f`. Nothing that it has staged is
left, unless it is the file whose writing failed. Some of the first files are in their places, and
no others. -/
structure Failed (T : Set Trouble) (artifacts : List Artifact) (d d' : Disk) (f : Failure) :
    Prop where
  unstaged : ∀ a ∈ artifacts, ¬ MayBeCut T (stagingPath a.path) f →
    d'.entry? (Disk.place d.here (stagingPath a.path)) = none ∨
      AsBefore artifacts d d' (Disk.place d.here (stagingPath a.path))
  committed : ∃ k < artifacts.length,
    (∀ a ∈ artifacts.take k, d'.read a.path = .ok a.content.toUTF8) ∧
      ∀ a ∈ artifacts.drop k, AsBefore artifacts d d' (Disk.place d.here a.path)

/-- Making the directory of a file adds directories above the files only. -/
theorem ends_ensureParent (hs : Artifact.Siblings c e artifacts) (ha : a ∈ artifacts)
    {here : Location} (hhere : d.here = here) :
    Ends T (ensureParent a.path) d fun r d' => d.Grows d' (IsAbove here artifacts) ∧
      (r = .ok () → d'.Open (Artifact.folder c a.kind)) ∧
      ((∀ fault, .refused fault ∉ T) → (d.ensureFirst a.path.parents).1 = .ok () →
        r = .ok ()) := by
  have hempty := Artifact.isEmpty_folder c a.kind
  have hparents := Artifact.parents_pathOf c a.kind e hs.no_slash
  rw [← hs.path_eq a ha] at hparents
  have hparent : a.path.parent? = some (Artifact.folder c a.kind) := by
    rw [Path.parent?, hparents, List.head?_cons]
  rw [ensureParent, hparent, hparents]
  simp only [hempty, Bool.false_eq_true, if_false]
  refine ends_attempt ((acts_makeFirst _ d).mono fun r d' h => ?_)
  refine ⟨?_, fun hr => ?_, fun hnone hok => ?_⟩
  · rw [← hhere]
    refine h.grows.mono fun l hl => ⟨a, ha, ?_⟩
    rwa [hparents]
  · cases r with
    | error fault => simp [Except.mapError] at hr
    | ok u => exact h.opened rfl _ (by simp) hempty
  · -- Where nothing is refused, it goes as it does without troubles.
    rw [h.plain hnone] at hok
    rw [show r = .ok () from hok]
    rfl

/-- Staging `a` has failed with `f`. The files of `done` stay staged, and beside the place of `a`
there may be a part of its file. -/
structure Halted (T : Set Trouble) (c : Config) (e : String) (artifacts : List Artifact)
    (d d' : Disk) (done : List Artifact) (a : Artifact) (f : Failure) : Prop where
  here : d'.here = d.here
  waiting : ∀ b ∈ done, Waiting c e d' b
  kept : ∀ l, (∀ b ∈ done, l ≠ Disk.place d.here (stagingPath (Artifact.pathOf c b.kind e))) →
    (l = Disk.place d.here (stagingPath (Artifact.pathOf c a.kind e)) →
      ¬ MayBeCut T (stagingPath a.path) f) →
    AsBefore artifacts d d' l

/-- Where nothing of the file was written, staging has halted before it. -/
theorem Laid.halted {f : Failure}
    (h : Laid c (fun k => stagingPath (Artifact.pathOf c k e)) artifacts d d' done) :
    Halted T c e artifacts d d' done a f :=
  ⟨h.here, fun _ hb => h.waiting hb, fun l hl _ => h.kept l hl⟩

/-- A part of the file takes nothing away from the others. -/
theorem Laid.halted_cut (he : '/' ∉ e.toList)
    (h : Laid c (fun k => stagingPath (Artifact.pathOf c k e)) artifacts d d' done)
    (hnew : ∀ b ∈ done, b.kind ≠ a.kind) {f : Failure} (hcut : MayBeCut T (stagingPath a.path) f)
    (hfree : d'.entry? (Disk.place d'.here (stagingPath (Artifact.pathOf c a.kind e))) ≠
      some .directory) {part : ByteArray}
    (hsets : d'.Sets d'' (Disk.place d'.here (stagingPath (Artifact.pathOf c a.kind e)))
      (some (.file part))) :
    Halted T c e artifacts d d'' done a f := by
  have hdirs : ∀ l, d'.entry? l = some .directory → d''.entry? l = some .directory := by
    intro l hl
    rw [hsets.of_ne fun heq => hfree (heq ▸ hl), hl]
  refine ⟨hsets.here.trans h.here, fun b hb => ?_, fun l hl hwhole => ?_⟩
  · have hwaiting := h.waiting hb
    refine ⟨hwaiting.folder.of_directories hsets.here hdirs, hwaiting.fits, ?_⟩
    rw [hsets.here, hsets.of_ne (Artifact.stagingPath_apart d'.here c e he (hnew b hb)).2]
    exact hwaiting.staged
  · rw [h.here] at hsets
    have hne := fun heq => hwhole heq hcut
    rw [AsBefore, hsets.of_ne hne]
    exact h.kept l hl

/-- Staging one more file adds it to those that are staged, or leaves these as they are. -/
theorem ends_stage (hs : Artifact.Siblings c e artifacts) (ha : a ∈ artifacts)
    (hnew : ∀ b ∈ done, b.kind ≠ a.kind)
    (h : Laid c (fun k => stagingPath (Artifact.pathOf c k e)) artifacts d d' done) :
    Ends T (stage a) d' fun r d'' =>
      match r with
      | .ok () =>
        Laid c (fun k => stagingPath (Artifact.pathOf c k e)) artifacts d d'' (done ++ [a])
      | .error f => Halted T c e artifacts d d'' done a f := by
  have he := hs.no_slash
  have hpath := hs.path_eq a ha
  have hspots := spots_stagingPath c e he
  refine (ends_ensureParent hs ha h.here).bind (fun u d₁ hparent => ?_) fun f d₁ hparent =>
    (h.grows hparent.1).halted
  have h₁ := h.grows hparent.1
  have hfolder := hparent.2.1 rfl
  have hin := hspots.hasFolder hfolder
  refine ends_perform_bind (acts_isDirectory a.path d₁) fun found d₂ hfound => ?_
  obtain ⟨rfl, -⟩ := hfound
  cases found with
  | true => exact ends_throw_bind h₁.halted
  | false =>
    refine ends_attempt ((acts_write _ _ d₂).mono fun r d₃ hw => ?_)
    cases r with
    | ok u =>
      obtain ⟨-, hw⟩ := hw
      rw [hpath] at hw
      obtain ⟨hfit, hfree, hsets⟩ := hin.of_write hw
      exact h₁.write hspots hfolder hfit hfree hnew hsets
    | error fault =>
      -- The write was refused, or was cut after a part of the file.
      rcases hw with ⟨rfl, -⟩ | ⟨length, hcut, hw⟩
      · exact h₁.halted
      · rw [hpath] at hw
        obtain ⟨-, hfree, hsets⟩ := hin.of_write hw
        exact h₁.halted_cut he hnew ⟨length, fault, hcut, rfl⟩ hfree hsets

/-- The removal of staged files meets no troubles, so the same comes of it as without any. -/
theorem ends_discard (artifacts : List Artifact) {d d' : Disk}
    (hrun : Runs (discard artifacts) d (.ok ()) d') :
    Ends T (discard artifacts) d fun r d'' => r = .ok () ∧ d'' = d' := by
  induction artifacts generalizing d with
  | nil =>
    obtain ⟨-, rfl⟩ := hrun.unique (runs_pure () d)
    exact ends_pure ⟨rfl, rfl⟩
  | cons a rest ih =>
    refine ends_perform_bind (acts_remove _ d) fun r d₁ hr => ?_
    obtain ⟨d₂, hrest⟩ := runs_discard_ok rest d₁
    cases r with
    | ok u =>
      obtain ⟨-, rfl⟩ := hrun.unique ((runs_remove hr).bind hrest)
      exact ih hrest
    | error fault =>
      obtain ⟨rfl, hr⟩ := hr
      obtain ⟨-, rfl⟩ := hrun.unique
        ((runs_remove_error hr).bind ((runs_record _ d₁).bind hrest))
      exact ends_record_bind (ih hrest)

theorem ends_discard_waiting (artifacts : List Artifact) (hs : Artifact.Siblings c e artifacts)
    (hwaiting : ∀ a ∈ artifacts, Waiting c e d a) :
    Ends T (discard artifacts) d fun r d' => r = .ok () ∧ Cleared c e artifacts d d' := by
  obtain ⟨d₁, hrun, hclear⟩ := runs_discard artifacts hs (fun a ha => (hwaiting a ha).folder)
    (fun a ha => (hwaiting a ha).fits) fun a ha => ⟨_, (hwaiting a ha).staged⟩
  refine (ends_discard artifacts hrun).mono fun r d' h => ?_
  obtain ⟨rfl, rfl⟩ := h
  exact ⟨rfl, hclear⟩

/-- If the files that stayed staged are removed, nothing but directories is new. -/
theorem Halted.failed {f : Failure} (h : Halted T c e artifacts d d' done a f)
    (hs : Artifact.Siblings c e artifacts) (ha : a ∈ artifacts)
    (hc : Cleared c e done d' d'') : Failed T artifacts d d'' f := by
  have he := hs.no_slash
  have hgone := hc.gone
  have hkept := hc.kept
  rw [h.here] at hgone hkept
  have hout : ∀ l, (∀ b ∈ done, l ≠ Disk.place d.here (stagingPath (Artifact.pathOf c b.kind e))) →
      (l = Disk.place d.here (stagingPath (Artifact.pathOf c a.kind e)) →
        ¬ MayBeCut T (stagingPath a.path) f) → AsBefore artifacts d d'' l := by
    intro l hl hwhole
    rw [AsBefore, hkept l hl]
    exact h.kept l hl hwhole
  refine ⟨fun b hb hwhole => ?_, 0, List.length_pos_of_mem ha, by simp, fun b hb => ?_⟩
  · rw [hs.path_eq b hb] at hwhole ⊢
    -- What was staged before is removed, and all else is as the staging has left it.
    by_cases hdone : ∃ b' ∈ done, Disk.place d.here (stagingPath (Artifact.pathOf c b.kind e)) =
        Disk.place d.here (stagingPath (Artifact.pathOf c b'.kind e))
    · obtain ⟨b', hb', heq⟩ := hdone
      rw [heq]
      exact Or.inl (hgone b' hb')
    · refine Or.inr (hout _ (fun b' hb' heq => hdone ⟨b', hb', heq⟩) fun heq => ?_)
      rwa [hs.path_eq a ha, ← Artifact.place_stagingPath_injective d.here c e he heq]
  · -- Nothing was moved, and no file's place is a staging place.
    rw [hs.path_eq b (List.mem_of_mem_drop hb)]
    have hapart := fun k => Artifact.place_pathOf_ne_stagingPath d.here c e b.kind k he he
    exact hout _ (fun b' _ => hapart b'.kind) fun heq => absurd heq (hapart a.kind)

/-- Either all files are staged, or nothing of the staging is left. -/
theorem ends_stageAll (hs : Artifact.Siblings c e artifacts) (done rest : List Artifact)
    (hsplit : done ++ rest = artifacts)
    (h : Laid c (fun k => stagingPath (Artifact.pathOf c k e)) artifacts d d' done) :
    Ends T (stageAll done rest) d' fun r d'' =>
      match r with
      | .ok () =>
        Laid c (fun k => stagingPath (Artifact.pathOf c k e)) artifacts d d'' artifacts
      | .error f => Failed T artifacts d d'' f := by
  -- `Laid` holds of what is staged so far. A file that cannot be staged turns it into `Halted`, and
  -- the removal that follows ends the run.
  induction rest generalizing done d' with
  | nil =>
    rw [List.append_nil] at hsplit
    exact ends_pure (hsplit ▸ h)
  | cons a rest ih =>
    have ha : a ∈ artifacts := by simp [← hsplit]
    have hdone : Artifact.Siblings c e done := by
      rw [← hsplit] at hs
      exact hs.of_append.1
    have hstep : Ends T (tryCatch (stage a) fun failure => do discard done; throw failure) d'
        fun r d'' => match r with
          | .ok () =>
            Laid c (fun k => stagingPath (Artifact.pathOf c k e)) artifacts d d'' (done ++ [a])
          | .error f => Failed T artifacts d d'' f := by
      refine (ends_stage hs ha (hs.kind_ne hsplit) h).catch (fun u d₁ h₁ => h₁) fun f d₁ h₁ => ?_
      refine (ends_discard_waiting done hdone h₁.waiting).bind (fun u d₂ hc => ?_)
        fun f' d₂ hc => absurd hc.1 (by simp)
      exact ends_throw (h₁.failed hs ha hc.2)
    exact hstep.bind (fun u d₁ h₁ => ih (done ++ [a]) (by simp [← hsplit]) h₁) fun f d₁ h₁ => h₁

structure Parted (c : Config) (e : String) (moved left : List Artifact) (d d' : Disk) : Prop where
  left_ne : left ≠ []
  parted : ∃ d₁, Moved c e moved d d₁ ∧ Cleared c e left d₁ d'
  directory : ∀ l, d.entry? l = some .directory → d'.entry? l = some .directory

/-- Removing staged files takes no directory away. -/
theorem Cleared.directory (hwaiting : ∀ a ∈ artifacts, Waiting c e d a)
    (h : Cleared c e artifacts d d') (l : Location) (hl : d.entry? l = some .directory) :
    d'.entry? l = some .directory := by
  rw [h.kept l, hl]
  intro a ha heq
  rw [heq, (hwaiting a ha).staged] at hl
  simp at hl

theorem Cleared.parted {rest : List Artifact} (hwaiting : ∀ b ∈ a :: rest, Waiting c e d b)
    (h : Cleared c e (a :: rest) d d') : Parted c e [] (a :: rest) d d' :=
  ⟨by simp, ⟨d, ⟨rfl, by simp, by simp, fun _ _ => rfl⟩, h⟩, h.directory hwaiting⟩

/-- A file that was moved before the others counts as moved. -/
theorem Parted.cons {moved left : List Artifact} (hready : Ready c e d a) (he : '/' ∉ e.toList)
    (hkind : ∀ b ∈ moved, b.kind ≠ a.kind) (hm : Moved c e [a] d d')
    (h : Parted c e moved left d' d'') : Parted c e (a :: moved) left d d'' := by
  obtain ⟨d₁, hmoved, hclear⟩ := h.parted
  exact ⟨h.left_ne, ⟨d₁, hm.cons he hkind hmoved, hclear⟩, fun l hl =>
    h.directory l (hready.directory_of_moved hm l hl)⟩

/-- Moves that meet troubles are made up to some file. A directory in the place of a file keeps it
from being moved, just as a trouble does. -/
theorem ends_commit (rest : List Artifact) (hs : Artifact.Siblings c e rest)
    (hwaiting : ∀ a ∈ rest, Waiting c e d a) :
    Ends T (commit rest) d fun r d' => ∀ f, r = .error f →
      ∃ moved left, rest = moved ++ left ∧ Parted c e moved left d d' := by
  induction rest generalizing d with
  | nil => exact ends_pure (by simp)
  | cons a rest ih =>
    have he := hs.no_slash
    have hpath := hs.path_eq a List.mem_cons_self
    have ha := hwaiting a List.mem_cons_self
    obtain ⟨hrest, hkind⟩ := hs.of_cons
    refine ends_perform_bind (acts_move _ _ d) fun r d₁ hr => ?_
    cases r with
    | ok u =>
      -- A move that was made has found no directory in the place, so it has filled it.
      have hmove : d.move (stagingPath a.path) a.path = .ok d₁ := hr
      rw [hpath] at hmove
      have hfree := (Disk.move_inv d d₁ _ _ hmove).1
      have hready : Ready c e d a := ⟨ha.folder, ha.fits, ha.staged, hfree⟩
      obtain ⟨d₁', hmove', hmoved⟩ := hready.move he
      obtain rfl := Except.ok.inj (hmove.symm.trans hmove')
      refine ends_record_bind ((ih hrest fun b hb => ?_).mono fun r d' h f hf => ?_)
      · exact (hwaiting b (List.mem_cons_of_mem a hb)).of_moved hready he (hkind b hb) hmoved
      · obtain ⟨moved, left, rfl, hparted⟩ := h f hf
        refine ⟨a :: moved, left, rfl, hparted.cons hready he (fun b hb => ?_) hmoved⟩
        exact hkind b (List.mem_append_left left hb)
    | error fault =>
      obtain ⟨rfl, -⟩ := hr
      refine (ends_discard_waiting _ hs hwaiting).bind (fun u d₂ hc => ?_)
        fun f d₂ hc => absurd hc.1 (by simp)
      exact ends_throw_bind fun f _ => ⟨[], a :: rest, rfl, hc.2.parted hwaiting⟩

/-- Where the files of `moved` are in their places and those of `left` are removed, a run has failed
after as many moves. -/
theorem Parted.failed {moved left : List Artifact} {f : Failure}
    (h : Parted c e moved left d' d'') (hs : Artifact.Siblings c e (moved ++ left))
    (hlaid : Laid c (fun k => stagingPath (Artifact.pathOf c k e)) (moved ++ left) d d'
      (moved ++ left)) : Failed T (moved ++ left) d d'' f := by
  have he := hs.no_slash
  obtain ⟨hleft, ⟨d₁, hmoved, hclear⟩, hdirs⟩ := h
  have hhere : d''.here = d.here := hclear.here.trans (hmoved.here.trans hlaid.here)
  have hfilled := hmoved.filled
  have hemptied := hmoved.emptied
  have hkept := hmoved.kept
  have hgone := hclear.gone
  have hkept' := hclear.kept
  rw [hlaid.here] at hfilled hemptied hkept
  rw [hmoved.here, hlaid.here] at hgone hkept'
  have hkinds := hs.of_append.2
  refine ⟨fun a ha _ => Or.inl ?_, moved.length, ?_, fun a ha => ?_, fun a ha => ?_⟩
  · -- A staged file was moved away or is removed again.
    rw [hs.path_eq a ha]
    rcases List.mem_append.mp ha with ha | ha
    · rw [hkept' _ fun b hb => (Artifact.stagingPath_apart d.here c e he (hkinds a ha b hb)).2]
      exact hemptied a ha
    · exact hgone a ha
  · simpa using List.length_pos_iff.mpr hleft
  · -- The files that were moved can be read.
    rw [List.take_left] at ha
    have hmem := List.mem_append_left left ha
    have hfits := Artifact.fits_pathOf c a.kind e he (hlaid.fits a hmem)
    apply read_of_entry hs hmem hfits
    · exact (hlaid.folder a hmem).of_directories (hhere.trans hlaid.here.symm) hdirs
    · rw [hhere, hs.path_eq a hmem,
        hkept' _ fun b _ => Artifact.place_pathOf_ne_stagingPath d.here c e a.kind b.kind he he]
      exact hfilled a ha
  · -- The places of the others are as the staging has left them.
    rw [List.drop_left] at ha
    have hstaged := fun b : Artifact =>
      Artifact.place_pathOf_ne_stagingPath d.here c e a.kind b.kind he he
    rw [hs.path_eq a (List.mem_append_right moved ha), AsBefore, hkept' _ fun b _ => hstaged b,
      hkept _ fun b hb => Artifact.pathOf_apart d.here c e he (hkinds b hb a ha).symm]
    exact hlaid.kept _ fun b _ => hstaged b

/-- Whichever operations on files fail, and however: if staged writing fails, then nothing that it
has staged is left, unless it is the file whose writing failed after a part of it, and some of the
first files are in their places and no others. -/
theorem write_staged_failed (t : Table) (c : Config) (artifacts : List Artifact)
    (hplan : Artifact.plan t c = .ok artifacts) (T : Set Trouble) (d : Disk) :
    Ends T (write .staged artifacts) d fun r d' =>
      ∀ f, r = .error f → Failed T artifacts d d' f := by
  have hs := Artifact.siblings_of_plan t c artifacts hplan
  refine (ends_stageAll hs [] artifacts rfl (Laid.nil c _ artifacts d)).bind (fun u d₁ hlaid => ?_)
    fun f d₁ hfailed f' hf => ?_
  · -- All files are staged, and some of them are moved before a move fails.
    refine (ends_commit artifacts hs fun a ha => hlaid.waiting ha).mono fun r d₂ h f hf => ?_
    obtain ⟨moved, left, rfl, hparted⟩ := h f hf
    exact hparted.failed hs hlaid
  · obtain rfl := Except.error.inj hf
    exact hfailed

theorem write_staged_failed_fooTable :
    Ends Set.univ
      (write .staged (ArtifactKind.all.map (Artifact.planned fooTable ⟨"com.acme", ⟨"out"⟩⟩)))
      Disk.fresh fun r d' => ∀ f, r = .error f →
        Failed Set.univ (ArtifactKind.all.map (Artifact.planned fooTable ⟨"com.acme", ⟨"out"⟩⟩))
          Disk.fresh d' f :=
  write_staged_failed fooTable ⟨"com.acme", ⟨"out"⟩⟩ _
    (Artifact.plan_of_valid fooTable _ checkNames_fooTable (by decide)) Set.univ Disk.fresh

/-- What a run that failed would leave at best: no staged file that is new, some of the first files
in their places, and the places of the others as they were. -/
structure Clean (artifacts : List Artifact) (d d' : Disk) : Prop where
  unstaged : ∀ a ∈ artifacts, ∀ bytes,
    d'.entry? (Disk.place d.here (stagingPath a.path)) = some (.file bytes) →
      d.entry? (Disk.place d.here (stagingPath a.path)) = some (.file bytes)
  committed : ∃ k ≤ artifacts.length,
    (∀ a ∈ artifacts.take k, d'.read a.path = .ok a.content.toUTF8) ∧
      ∀ a ∈ artifacts.drop k,
        d'.entry? (Disk.place d.here a.path) = d.entry? (Disk.place d.here a.path)

/-- The first file that cannot be staged ends the run, and there is nothing to remove. -/
theorem ends_writeStaged_first {rest : List Artifact} {post : Failure → Disk → Prop}
    (h : Ends T (stage a) d fun r d' => ∃ f, r = .error f ∧ post f d') :
    Ends T (writeStaged (a :: rest)) d fun r d' => ∃ f, r = .error f ∧ post f d' := by
  have hstep : Ends T (tryCatch (stage a) fun failure => do discard []; throw failure) d
      fun r d' => ∃ f, r = .error f ∧ post f d' := by
    refine h.catch (fun u d' hr => absurd hr (by simp)) fun f d' hr => ?_
    obtain ⟨f', hf, hpost⟩ := hr
    exact ends_throw ⟨f', hf, hpost⟩
  have hstage : Ends T (stageAll [] (a :: rest)) d fun r d' => ∃ f, r = .error f ∧ post f d' := by
    refine hstep.bind (fun u d' hr => absurd hr (by simp)) fun f d' hr => ?_
    simpa using hr
  exact hstage.bind (fun u d' hr => absurd hr (by simp)) fun f d' hr => hr

section Left

variable (hnone : ∀ fault, .refused fault ∉ T)

section First

variable (hs : Artifact.Siblings c e artifacts) (ha : a ∈ artifacts)

include hnone hs ha

/-- A file whose place is on the way to its directory cannot be staged, since a directory is made
there. -/
theorem ends_stage_onWay (hfits : Disk.Fits (Artifact.pathOf c a.kind e))
    (hclear : d.Clear (Artifact.folder c a.kind))
    (hway : Disk.OnWay d.here (Artifact.folder c a.kind)
      (Disk.place d.here (Artifact.pathOf c a.kind e))) :
    Ends T (stage a) d fun r d' => ∃ f, r = .error f ∧ d'.here = d.here ∧ d'.Open a.path := by
  have he := hs.no_slash
  have hok := ensureFirst_pathOf a.kind he hfits hclear
  rw [← hs.path_eq a ha] at hok
  refine (ends_ensureParent hs ha rfl).bind (fun u d₁ h => ?_) fun f d₁ h => ?_
  · obtain ⟨hgrows, hopen, -⟩ := h
    have hplace := (hopen rfl).directory _ (hgrows.here ▸ hway)
    have htarget := ((spots_pathOf c e he).hasFolder (hopen rfl)).open_iff.mpr
      ⟨hfits, hgrows.here ▸ hplace⟩
    rw [← hs.path_eq a ha] at htarget
    refine ends_perform_bind (acts_isDirectory a.path d₁) fun found d₂ hfound => ?_
    obtain ⟨rfl, rfl | ⟨-, fault, hfault⟩⟩ := hfound
    · rw [(Disk.isDirectory_iff d₂ _).mpr htarget]
      exact ends_throw_bind ⟨_, rfl, hgrows.here, htarget⟩
    · exact absurd hfault (hnone fault)
  · exact absurd (h.2.2 hnone hok) (by simp)

/-- The part of a file that was written before the trouble stays beside its place. -/
theorem ends_stage_cut (hcut : .none ∉ T) (hcan : CanEmit .staged c e artifacts d) :
    Ends T (stage a) d fun r d' => ∃ f, r = .error f ∧
      ∃ part, d'.entry? (Disk.place d.here (stagingPath a.path)) = some (.file part) := by
  have he := hs.no_slash
  have hpath := hs.path_eq a ha
  have hok := ensureFirst_pathOf a.kind he (hcan.write.fits a ha) (hcan.write.clear a ha)
  rw [← hpath] at hok
  refine (ends_ensureParent hs ha rfl).bind (fun u d₁ h => ?_) fun f d₁ h => ?_
  · obtain ⟨hgrows, hopen, -⟩ := h
    have htarget := hcan.write.free_laid hs (by simp) ((Laid.nil c _ artifacts d).grows hgrows) ha
    -- None of the directories that were made is where the file is to be staged.
    have hstaging : d₁.entry? (Disk.place d₁.here (stagingPath a.path)) ≠ some .directory := by
      rw [hgrows.here]
      intro hdir
      rcases hgrows.entry _ with h1 | ⟨-, -, habove⟩
      · exact (hcan.stage rfl).free a ha (h1.symm.trans hdir)
      · exact (hcan.stage rfl).not_isAbove hs hs rfl a ha habove
    have hfile : d₁.isDirectory a.path = false := by
      rw [← Bool.not_eq_true, Disk.isDirectory_iff, hpath]
      exact fun hplace => htarget hplace.directory_place
    refine ends_perform_bind (acts_isDirectory a.path d₁) fun found d₂ hfound => ?_
    obtain ⟨rfl, hfound⟩ := hfound
    obtain rfl : found = false := hfound.elim (fun h => h.trans hfile) (·.1)
    have hin := (spots_stagingPath c e he).hasFolder (hopen rfl)
    rw [← hpath] at hin
    refine ends_attempt ((acts_write _ _ d₂).mono fun r d₃ hw => ?_)
    cases r with
    | ok u => exact absurd hw.1 hcut
    | error fault =>
      refine ⟨_, rfl, ?_⟩
      -- No write is refused and the disk allows this one, so a part of the file is there.
      rcases hw with ⟨-, hrefused | ⟨bytes, hw⟩⟩ | ⟨length, -, hw⟩
      · exact absurd hrefused (hnone fault)
      · obtain ⟨d₄, hw', -⟩ := hin.write ((hcan.stage rfl).fits a ha) hstaging bytes
        exact absurd (hw.symm.trans hw') (by simp)
      · exact ⟨_, hgrows.here ▸ (hin.of_write hw).2.2.at⟩
  · exact absurd (h.2.2 hnone hok) (by simp)

end First

variable {rest : List Artifact} (hs : Artifact.Siblings c e (a :: rest)) {trouble : Trouble}
  (htrouble : trouble ∈ T)

include hnone hs htrouble

/-- A write that fails after a part leaves that part, if nothing was there. -/
theorem not_clean_of_cut (hcut : .none ∉ T) (hcan : CanEmit .staged c e (a :: rest) d)
    (hnew : ∀ bytes, d.entry? (Disk.place d.here (stagingPath a.path)) ≠ some (.file bytes)) :
    ¬ Ends T (write .staged (a :: rest)) d fun r d' =>
      ∀ f, r = .error f → Clean (a :: rest) d d' := by
  intro hclaim
  have hleft : Ends T (writeStaged (a :: rest)) d _ :=
    ends_writeStaged_first (ends_stage_cut hnone hs List.mem_cons_self hcut hcan)
  obtain ⟨r, d', ⟨f, hf, part, hpart⟩, hclean⟩ := hleft.exists_both hclaim htrouble
  exact hnew part ((hclean f hf).unstaged a List.mem_cons_self part hpart)

/-- A base path through the place of a file leaves a directory there. -/
theorem not_clean_of_onWay (hfits : Disk.Fits (Artifact.pathOf c a.kind e))
    (hclear : d.Clear (Artifact.folder c a.kind))
    (hway : Disk.OnWay d.here (Artifact.folder c a.kind)
      (Disk.place d.here (Artifact.pathOf c a.kind e)))
    (hnew : d.entry? (Disk.place d.here a.path) ≠ some .directory) :
    ¬ Ends T (write .staged (a :: rest)) d fun r d' =>
      ∀ f, r = .error f → Clean (a :: rest) d d' := by
  intro hclaim
  have hleft : Ends T (writeStaged (a :: rest)) d _ :=
    ends_writeStaged_first (ends_stage_onWay hnone hs List.mem_cons_self hfits hclear hway)
  obtain ⟨r, d', ⟨f, hf, hhere, hopen⟩, hclean⟩ := hleft.exists_both hclaim htrouble
  obtain ⟨k, -, hfilled, hkept⟩ := (hclean f hf).committed
  -- The place of the first file is neither filled nor as it was.
  cases k with
  | zero =>
    apply hnew
    rw [← hkept a List.mem_cons_self, ← hhere]
    exact hopen.directory_place
  | succ k =>
    have hread := hfilled a (by simp)
    rw [hopen.read] at hread
    exact absurd hread (by simp)

end Left

/-- A configuration whose base path leads through the place of the entity, and out of it again. -/
def throughConfig : Config := ⟨"pkg", ⟨"b/pkg/domain/Foo.java/../../.."⟩⟩

theorem stem_home_throughConfig : (Artifact.home throughConfig).stem =
    ["b", "pkg", "domain", "Foo.java", "..", "..", "..", "pkg"] := by
  decide

theorem fits_through : Disk.Fits (Artifact.pathOf throughConfig .entity "Foo") := by
  apply Artifact.fits_pathOf throughConfig .entity "Foo" (by decide)
  apply Artifact.fits_stagingPath throughConfig .entity "Foo" (by decide)
  · rw [stem_home_throughConfig]
    decide
  · rw [stem_home_throughConfig]
    decide

/-- The place of the entity is on the way to its directory. -/
theorem onWay_through : Disk.OnWay Disk.fresh.here (Artifact.folder throughConfig .entity)
    (Disk.place Disk.fresh.here (Artifact.pathOf throughConfig .entity "Foo")) := by
  have hname := ArtifactKind.isName_fileName .entity "Foo" (by decide)
  rw [Artifact.pathOf_eq_child, Disk.place_child _ _ _ hname]
  exact onWay_of_stem _ throughConfig _ hname (by decide) stem_home_throughConfig

/-- A run that failed can leave a part of a staged file, and a directory where nothing was. -/
theorem failed_run_not_clean :
    (¬ Ends {.cut 0 (.other "No space left on device (os error 28)")}
      (write .staged
        (ArtifactKind.all.map (Artifact.planned (.ofColumns "t" []) Generation.smallConfig)))
      Disk.fresh fun r d' => ∀ f, r = .error f →
        Clean (ArtifactKind.all.map (Artifact.planned (.ofColumns "t" []) Generation.smallConfig))
          Disk.fresh d') ∧
    ¬ Ends {.none}
      (write .staged (ArtifactKind.all.map (Artifact.planned fooTable throughConfig)))
      Disk.fresh fun r d' => ∀ f, r = .error f →
        Clean (ArtifactKind.all.map (Artifact.planned fooTable throughConfig)) Disk.fresh d' := by
  obtain ⟨rest, hrest⟩ : ∃ rest, ArtifactKind.all = .entity :: rest := ⟨_, rfl⟩
  constructor
  · -- The first write is cut, and leaves a file without content.
    have hplan := Artifact.plan_of_valid (.ofColumns "t" []) Generation.smallConfig (by decide)
      (by decide)
    have hs := Artifact.siblings_of_plan _ _ _ hplan
    have hcan := Generation.canEmit_small .staged _ (Or.inl Generation.entityName_small_t) _ hs
    rw [hrest, List.map_cons] at hs hcan ⊢
    refine not_clean_of_cut (by simp) hs rfl (by simp) hcan fun bytes hfile => ?_
    exact absurd (entry_of_fresh _ _ hfile).1 (by simp)
  · -- The base path leads through the place of the first file.
    have hplan := Artifact.plan_of_valid fooTable throughConfig checkNames_fooTable (by decide)
    have hs := Artifact.siblings_of_plan _ _ _ hplan
    rw [entityName_fooTable] at hs
    rw [hrest, List.map_cons] at hs ⊢
    refine not_clean_of_onWay (by simp) hs rfl fits_through (fun l _ bytes hfile => ?_)
      onWay_through ?_
    · exact absurd (entry_of_fresh l _ hfile).1 (by simp)
    · rw [hs.path_eq _ List.mem_cons_self]
      exact not_directory_fresh _ (Artifact.isFilePlace_pathOf _ _ _ .entity hs.no_slash)

end CrudLayer.Emission
