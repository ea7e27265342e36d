import Mathlib
import CrudLayer.Emission
import CrudLayer.Proofs.Directories

namespace CrudLayer.Logged

/-- What comes of a computation on a machine after these events: its result, all events, and the
machine it leaves. -/
def on {ε α : Type} (x : Logged ε (StateM Machine) α) (log : Log) (m : Machine) :
    (Except ε α × Log) × Machine :=
  ((x.run.run log).run m).run

/-- On a machine with the disk `d`, the computation comes to `r` and leaves the disk `d'`, whatever
was recorded before and whatever is still to come on the standard input. -/
def Runs {ε α : Type} (x : Logged ε (StateM Machine) α) (d : Disk) (r : Except ε α) (d' : Disk) :
    Prop :=
  ∀ log input, ∃ log', (x.run.run log).run ⟨d, input⟩ = pure ((r, log'), ⟨d', input⟩)

variable {ε α β : Type} {x : Logged ε (StateM Machine) α} {f : α → Logged ε (StateM Machine) β}
  {h : ε → Logged ε (StateM Machine) α} {d d' d'' : Disk} {a : α} {e : ε}

/-- A computation comes to one result and one disk. -/
theorem Runs.unique {r r' : Except ε α} (hr : Runs x d r d') (hr' : Runs x d r' d'') :
    r = r' ∧ d' = d'' := by
  obtain ⟨log, h₁⟩ := hr [] .empty
  obtain ⟨log', h₂⟩ := hr' [] .empty
  have heq : ((r, log), (⟨d', .empty⟩ : Machine)) = ((r', log'), ⟨d'', .empty⟩) :=
    h₁.symm.trans h₂
  simp only [Prod.mk.injEq, Machine.mk.injEq] at heq
  exact ⟨heq.1.1, heq.2.1⟩

theorem runs_pure (a : α) (d : Disk) : Runs (pure a : Logged ε (StateM Machine) α) d (.ok a) d :=
  fun log _ => ⟨log, rfl⟩

theorem runs_throw (e : ε) (d : Disk) :
    Runs (throw e : Logged ε (StateM Machine) α) d (.error e) d :=
  fun log _ => ⟨log, rfl⟩

/-- The second computation starts from the disk that the first has left. -/
theorem Runs.bind {r : Except ε β} (hx : Runs x d (.ok a) d') (hf : Runs (f a) d' r d'') :
    Runs (x >>= f) d r d'' := by
  intro log input
  obtain ⟨log₁, h₁⟩ := hx log input
  obtain ⟨log₂, h₂⟩ := hf log₁ input
  exact ⟨log₂, by simp [ExceptT.run_bind, h₁, h₂]⟩

/-- A failure ends it. -/
theorem Runs.bind_error (hx : Runs x d (.error e) d') : Runs (x >>= f) d (.error e) d' := by
  intro log input
  obtain ⟨log₁, h₁⟩ := hx log input
  exact ⟨log₁, by simp [ExceptT.run_bind, h₁]⟩

theorem run_tryCatch {m : Type → Type} [Monad m] (x : Logged ε m α) (h : ε → Logged ε m α) :
    (tryCatch x h).run = x.run >>= fun
      | .ok a => pure (.ok a)
      | .error e => (h e).run := rfl

theorem Runs.tryCatch_ok (hx : Runs x d (.ok a) d') : Runs (tryCatch x h) d (.ok a) d' := by
  intro log input
  obtain ⟨log₁, h₁⟩ := hx log input
  exact ⟨log₁, by simp [run_tryCatch, h₁]⟩

/-- What is done about a failure starts from the disk that it has left. -/
theorem Runs.tryCatch_error {r : Except ε α} (hx : Runs x d (.error e) d')
    (hh : Runs (h e) d' r d'') : Runs (tryCatch x h) d r d'' := by
  intro log input
  obtain ⟨log₁, h₁⟩ := hx log input
  obtain ⟨log₂, h₂⟩ := hh log₁ input
  exact ⟨log₂, by simp [run_tryCatch, h₁, h₂]⟩

theorem runs_record (event : Event) (d : Disk) :
    Runs (record event : Logged ε (StateM Machine) Unit) d (.ok ()) d :=
  fun log _ => ⟨log ++ [event], rfl⟩

theorem runs_perform {action : StateM Machine α}
    (ha : ∀ input, action.run ⟨d, input⟩ = pure (a, ⟨d', input⟩)) :
    Runs (perform action : Logged ε (StateM Machine) α) d (.ok a) d' := by
  intro log input
  exact ⟨log, by simp [perform, ha]⟩

theorem runs_attempt {δ : Type} {g : δ → ε} {action : StateM Machine (Except δ α)}
    {r : Except δ α} (ha : ∀ input, action.run ⟨d, input⟩ = pure (r, ⟨d', input⟩)) :
    Runs (attempt g action : Logged ε (StateM Machine) α) d (r.mapError g) d' := by
  intro log input
  exact ⟨log, by simp [attempt, ha]⟩

end CrudLayer.Logged

namespace CrudLayer.Emission

open Logged

variable {d d' : Disk} {p folder : Path}

/-- Before a file is written, the directory it is in is made with all above it. -/
theorem runs_ensureParent (hp : p.parents = folder :: folder.parents)
    (hfolder : folder.isEmpty = false) (d : Disk) :
    Runs (ensureParent p : Logged Failure (StateM Machine) Unit) d
      ((d.ensureFirst p.parents).1.mapError (.io folder)) (d.ensureFirst p.parents).2 := by
  have hparent : p.parent? = some folder := by rw [Path.parent?, hp, List.head?_cons]
  rw [ensureParent, hparent, hp]
  simp only [hfolder, Bool.false_eq_true, if_false]
  exact runs_attempt fun input => Files.run_makeFirst _ ⟨d, input⟩

theorem runs_write_ok {bytes : ByteArray} (h : d.write p bytes = .ok d') :
    Runs (doAt p (Files.write p bytes) : Logged Failure (StateM Machine) Unit) d (.ok ()) d' :=
  runs_attempt (r := .ok ()) (Machine.run_change_ok h)

/-- A write that the disk refuses leaves the disk as it is. -/
theorem runs_write_error {bytes : ByteArray} {e : FileError} (h : d.write p bytes = .error e) :
    Runs (doAt p (Files.write p bytes) : Logged Failure (StateM Machine) Unit) d
      (.error (.io p e)) d :=
  runs_attempt (r := .error e) (Machine.run_change_error h)

theorem runs_isDirectory (p : Path) (d : Disk) :
    Runs (perform (Files.isDirectory p) : Logged Failure (StateM Machine) Bool) d
      (.ok (d.isDirectory p)) d :=
  runs_perform fun input => Files.run_isDirectory p ⟨d, input⟩

theorem runs_remove (h : d.remove p = .ok d') :
    Runs (perform (Files.remove p) : Logged Failure (StateM Machine) _) d (.ok (.ok ())) d' :=
  runs_perform (Machine.run_change_ok h)

theorem runs_remove_error {e : FileError} (h : d.remove p = .error e) :
    Runs (perform (Files.remove p) : Logged Failure (StateM Machine) _) d (.ok (.error e)) d :=
  runs_perform (Machine.run_change_error h)

theorem runs_move {q : Path} (h : d.move p q = .ok d') :
    Runs (perform (Files.move p q) : Logged Failure (StateM Machine) _) d (.ok (.ok ())) d' :=
  runs_perform (Machine.run_change_ok h)

end CrudLayer.Emission
