import Mathlib
import CrudLayer.Changeset.Loading
import CrudLayer.Proofs.Troubles

/-!
Computations on files, whatever runs them. Operations on files may fail for reasons of their own,
but what they do to a disk is what the disk allows. That is enough to say which files a computation
leaves as they are.
-/
namespace CrudLayer

class Executor (n : Type → Type) (S : outParam Type) [Monad n] where
  exec {α : Type} : n α → S → α × S
  exec_pure {α : Type} (a : α) (s : S) : exec (pure a) s = (a, s)
  exec_bind {α β : Type} (x : n α) (f : α → n β) (s : S) :
    exec (x >>= f) s = exec (f (exec x s).1) (exec x s).2

/-- What runs computations on files, from states that have a disk. To that disk an operation does
nothing or what the disk allows, and of a file that is written there may be only a part. -/
class Host (n : Type → Type) (S : outParam Type) [Monad n] [Files n] extends Executor n S where
  disk : S → Disk
  read (p : Path) (s : S) : disk (exec (Files.read p) s).2 = disk s
  readInput (s : S) : disk (exec Files.readInput s).2 = disk s
  isDirectory (p : Path) (s : S) : disk (exec (Files.isDirectory p) s).2 = disk s
  makeDirectory (p : Path) (s : S) : disk (exec (Files.makeDirectory p) s).2 = disk s ∨
    (disk s).makeDirectory p = .ok (disk (exec (Files.makeDirectory p) s).2)
  write (p : Path) (bytes : ByteArray) (s : S) :
    disk (exec (Files.write p bytes) s).2 = disk s ∨
      ∃ part, (disk s).write p part = .ok (disk (exec (Files.write p bytes) s).2)
  move (p q : Path) (s : S) : disk (exec (Files.move p q) s).2 = disk s ∨
    (disk s).move p q = .ok (disk (exec (Files.move p q) s).2)
  remove (p : Path) (s : S) : disk (exec (Files.remove p) s).2 = disk s ∨
    (disk s).remove p = .ok (disk (exec (Files.remove p) s).2)

/-- On a machine a change is made or nothing is. -/
theorem Machine.change_cases (f : Disk → Except FileError Disk) (m : Machine) :
    ((change f).run m).run.2.disk = m.disk ∨ f m.disk = .ok ((change f).run m).run.2.disk := by
  rw [run_change]
  cases f m.disk with
  | ok d => exact Or.inr rfl
  | error e => exact Or.inl rfl

instance : Host (StateM Machine) Machine where
  disk := Machine.disk
  exec x m := (x.run m).run
  exec_pure _ _ := rfl
  exec_bind _ _ _ := rfl
  read _ _ := rfl
  readInput _ := rfl
  isDirectory _ _ := rfl
  makeDirectory p m := Machine.change_cases (·.makeDirectory p) m
  write p bytes m := (Machine.change_cases (·.write p bytes) m).imp_right fun h => ⟨bytes, h⟩
  move p q m := Machine.change_cases (·.move p q) m
  remove p m := Machine.change_cases (·.remove p) m

namespace Troubled

/-- What comes of a computation that meets these troubles on a machine: its result, the troubles
that are still to come, and the machine it leaves. -/
def on {α : Type} (x : Troubled (StateM Machine) α) (s : Stream' Trouble × Machine) :
    α × Stream' Trouble × Machine :=
  let r := ((x.run s.1).run s.2).run
  (r.1.1, r.1.2, r.2)

theorem on_next_bind {α : Type} (g : Trouble → Troubled (StateM Machine) α)
    (s : Stream' Trouble × Machine) :
    on (next >>= g) s = on (g s.1.head) (s.1.tail, s.2) := rfl

theorem on_bind {α β : Type} (x : Troubled (StateM Machine) α) (f : α → Troubled (StateM Machine) β)
    (s : Stream' Trouble × Machine) : on (x >>= f) s = on (f (on x s).1) (on x s).2 := rfl

theorem on_lift_change (f : Disk → Except FileError Disk) (s : Stream' Trouble × Machine) :
    (on (StateT.lift (Machine.change f)) s).2.2.disk = s.2.disk ∨
      f s.2.disk = .ok (on (StateT.lift (Machine.change f)) s).2.2.disk :=
  Machine.change_cases f s.2

/-- An action that is amid troubles does nothing or what it does without them. -/
theorem on_amid {α : Type} (refusal : FileError → α) (action : StateM Machine α)
    (s : Stream' Trouble × Machine) :
    (on (amid refusal action) s).2.2 = s.2 ∨
      (on (amid refusal action) s).2.2 = (action.run s.2).run.2 := by
  rw [amid, on_next_bind]
  cases s.1.head with
  | refused e => exact Or.inl rfl
  | none => exact Or.inr rfl
  | cut length e => exact Or.inr rfl

/-- Asking changes nothing, whatever trouble is met. -/
theorem on_amid_ask {α : Type} (refusal : FileError → α) (f : Disk → α)
    (s : Stream' Trouble × Machine) :
    (on (amid refusal (Machine.ask f)) s).2.2.disk = s.2.disk := by
  rcases on_amid refusal (Machine.ask f) s with h | h <;> rw [h]
  rfl

/-- Amid troubles too, a change is made or nothing is. -/
theorem on_amid_change (f : Disk → Except FileError Disk) (s : Stream' Trouble × Machine) :
    (on (amid .error (Machine.change f)) s).2.2.disk = s.2.disk ∨
      f s.2.disk = .ok (on (amid .error (Machine.change f)) s).2.2.disk := by
  rcases on_amid .error (Machine.change f) s with h | h
  · exact Or.inl (by rw [h])
  · rw [h]
    exact Machine.change_cases f s.2

/-- Of a file that is written amid troubles there is nothing, or a part, or all of it. -/
theorem on_write (p : Path) (bytes : ByteArray) (s : Stream' Trouble × Machine) :
    (on (write p bytes) s).2.2.disk = s.2.disk ∨
      ∃ part, s.2.disk.write p part = .ok (on (write p bytes) s).2.2.disk := by
  rw [write, on_next_bind]
  cases s.1.head with
  | refused e => exact Or.inl rfl
  | none => exact (on_lift_change (·.write p bytes) s).imp_right fun h => ⟨bytes, h⟩
  | cut length e =>
    -- The result is not that of writing the part, but the machine is.
    have hpart := on_lift_change (·.write p (bytes.extract 0 length)) (s.1.tail, s.2)
    dsimp only
    rw [on_bind]
    split
    · exact hpart.imp_right fun h => ⟨_, h⟩
    · exact hpart.imp_right fun h => ⟨_, h⟩

end Troubled

instance : Host (Troubled (StateM Machine)) (Stream' Trouble × Machine) where
  disk s := s.2.disk
  exec := Troubled.on
  exec_pure _ _ := rfl
  exec_bind _ _ _ := rfl
  read p s := Troubled.on_amid_ask .error (·.read p) s
  readInput s := by
    rcases Troubled.on_amid .error Files.readInput s with h | h
    · exact congrArg Machine.disk h
    · exact (congrArg Machine.disk h).trans rfl
  isDirectory p s := Troubled.on_amid_ask _ (·.isDirectory p) s
  makeDirectory p s := Troubled.on_amid_change (·.makeDirectory p) s
  write p bytes s := Troubled.on_write p bytes s
  move p q s := Troubled.on_amid_change (·.move p q) s
  remove p s := Machine.change_cases (·.remove p) s.2

namespace Executor

variable {n : Type → Type} {S : Type} [Monad n] [Executor n S] {ε α β : Type}

/-- What comes of a computation after these events: its result, all events, and the state it
leaves. -/
def outcome (x : Logged ε n α) (log : Log) (s : S) : (Except ε α × Log) × S :=
  exec (x.run.run log) s

theorem outcome_pure (a : α) (log : Log) (s : S) :
    outcome (pure a : Logged ε n α) log s = ((.ok a, log), s) :=
  exec_pure (n := n) _ s

theorem outcome_throw (e : ε) (log : Log) (s : S) :
    outcome (throw e : Logged ε n α) log s = ((.error e, log), s) :=
  exec_pure (n := n) _ s

theorem outcome_ofExcept (r : Except ε α) (log : Log) (s : S) :
    outcome (Logged.ofExcept r : Logged ε n α) log s = ((r, log), s) :=
  exec_pure (n := n) _ s

/-- The second computation starts with the events and the state that the first has left. -/
theorem outcome_bind (x : Logged ε n α) (f : α → Logged ε n β) (log : Log) (s : S) :
    outcome (x >>= f) log s =
      match outcome x log s with
      | ((.ok a, log'), s') => outcome (f a) log' s'
      | ((.error e, log'), s') => ((.error e, log'), s') := by
  rw [outcome, ExceptT.run_bind, StateT.run_bind, exec_bind]
  rcases hx : outcome x log s with ⟨⟨⟨e⟩ | ⟨a⟩, log'⟩, s'⟩ <;>
    simp only [outcome] at hx <;> rw [hx]
  · exact exec_pure (n := n) _ s'
  · rfl

/-- What is done about a failure starts where the failure has left off. -/
theorem outcome_catch (x : Logged ε n α) (h : ε → Logged ε n α) (log : Log) (s : S) :
    outcome (tryCatch x h) log s =
      match outcome x log s with
      | ((.ok a, log'), s') => ((.ok a, log'), s')
      | ((.error e, log'), s') => outcome (h e) log' s' := by
  rw [outcome, Logged.run_tryCatch, StateT.run_bind, exec_bind]
  rcases hx : outcome x log s with ⟨⟨⟨e⟩ | ⟨a⟩, log'⟩, s'⟩ <;>
    simp only [outcome] at hx <;> rw [hx]
  · rfl
  · exact exec_pure (n := n) _ s'

variable [LawfulMonad n]

theorem outcome_record (event : Event) (log : Log) (s : S) :
    outcome (Logged.record event : Logged ε n Unit) log s = ((.ok (), log ++ [event]), s) := by
  have hrun : (Logged.record event : Logged ε n Unit).run.run log =
      pure (.ok (), log ++ [event]) := by
    show (Except.ok <$> (modify (· ++ [event]) : StateT Log n Unit)).run log = _
    simp
  rw [outcome, hrun, exec_pure]

theorem outcome_perform (action : n α) (log : Log) (s : S) :
    outcome (Logged.perform action : Logged ε n α) log s =
      ((.ok (exec action s).1, log), (exec action s).2) := by
  have hrun : (Logged.perform action : Logged ε n α).run.run log = action >>= fun a =>
      pure (.ok a, log) := by
    simp [Logged.perform]
  rw [outcome, hrun, exec_bind, exec_pure]

theorem outcome_attempt {δ : Type} (g : δ → ε) (action : n (Except δ α)) (log : Log) (s : S) :
    outcome (Logged.attempt g action) log s =
      (((exec action s).1.mapError g, log), (exec action s).2) := by
  have hrun : (Logged.attempt g action).run.run log = action >>= fun r =>
      pure (r.mapError g, log) := by
    simp [Logged.attempt]
  rw [outcome, hrun, exec_bind, exec_pure]

end Executor

/-- Apart from these places, the disks have the same files. -/
structure Disk.Keeps (touched : Location → Prop) (d d' : Disk) : Prop where
  here : d'.here = d.here
  file_iff : ∀ l, ¬ touched l → ∀ bytes,
    d'.entry? l = some (.file bytes) ↔ d.entry? l = some (.file bytes)

namespace Disk.Keeps

variable {touched : Location → Prop} {d d' d'' : Disk}

theorem refl (touched : Location → Prop) (d : Disk) : Keeps touched d d :=
  ⟨rfl, fun _ _ _ => Iff.rfl⟩

theorem trans (h : Keeps touched d d') (h' : Keeps touched d' d'') : Keeps touched d d'' :=
  ⟨h'.here.trans h.here, fun l hl bytes => (h'.file_iff l hl bytes).trans (h.file_iff l hl bytes)⟩

theorem of_sets {l : Location} {e : Option Entry} (h : d.Sets d' l e) (hl : touched l) :
    Keeps touched d d' := by
  refine ⟨h.here, fun l' hl' bytes => ?_⟩
  have hne : l' ≠ l := by
    rintro rfl
    exact hl' hl
  rw [h.of_ne hne]

/-- A directory that is made is in nobody's place. -/
theorem of_makeDirectory {p : Path} (h : d.makeDirectory p = .ok d') : Keeps touched d d' := by
  obtain ⟨hfree, hsets, -⟩ := makeDirectory_ok d d' p h
  have hgrows : d.Grows d' fun _ => True := Grows.of_sets hsets hfree trivial
  exact ⟨hgrows.here, fun l _ bytes => hgrows.file_iff l bytes⟩

theorem of_move {p q : Path} (h : d.move p q = .ok d') (hp : touched (place d.here p))
    (hq : touched (place d.here q)) : Keeps touched d d' := by
  obtain ⟨-, bytes, d₁, hset, rfl | hdrop⟩ := move_inv d d' p q h
  · exact of_sets hset hq
  · exact (of_sets hset hq).trans (of_sets hdrop hp)

end Disk.Keeps

namespace Host

open Executor

section Plain

variable {n : Type → Type} {S : Type} [Monad n] [Files n] [Host n S] {α β : Type}
  {here : Location} {touched : Location → Prop}

/-- Where relative paths start from `here`, the computation leaves all files as they are but those
at these places. -/
def Spares (here : Location) (touched : Location → Prop) (x : n α) : Prop :=
  ∀ s : S, (disk n s).here = here → (disk n s).Keeps touched (disk n (exec x s).2)

theorem spares_pure (a : α) : Spares here touched (pure a : n α) := by
  intro s _
  rw [exec_pure]
  exact Disk.Keeps.refl touched _

/-- Two computations that spare files spare them one after the other. -/
theorem Spares.bind {x : n α} {f : α → n β} (hx : Spares here touched x)
    (hf : ∀ a, Spares here touched (f a)) : Spares here touched (x >>= f) := by
  intro s hs
  have h := hx s hs
  rw [exec_bind]
  -- What comes second finds relative paths starting from `here` still.
  exact h.trans (hf _ _ (h.here.trans hs))

theorem spares_of_same {x : n α} (h : ∀ s : S, disk n (exec x s).2 = disk n s) :
    Spares here touched x := by
  intro s _
  rw [h s]
  exact Disk.Keeps.refl touched _

theorem spares_isDirectory (p : Path) : Spares here touched (Files.isDirectory p : n Bool) :=
  spares_of_same (isDirectory p)

theorem spares_makeDirectory (p : Path) :
    Spares here touched (Files.makeDirectory p : n (Except FileError Unit)) := by
  intro s _
  rcases makeDirectory (n := n) p s with h | h
  · rw [h]
    exact Disk.Keeps.refl touched _
  · exact Disk.Keeps.of_makeDirectory h

theorem spares_write (p : Path) (bytes : ByteArray) (hp : touched (Disk.place here p)) :
    Spares here touched (Files.write p bytes : n (Except FileError Unit)) := by
  intro s hs
  rcases write (n := n) p bytes s with h | ⟨part, h⟩
  · rw [h]
    exact Disk.Keeps.refl touched _
  · exact Disk.Keeps.of_sets (Disk.write_inv _ _ p part h).2 (hs ▸ hp)

theorem spares_move (p q : Path) (hp : touched (Disk.place here p))
    (hq : touched (Disk.place here q)) :
    Spares here touched (Files.move p q : n (Except FileError Unit)) := by
  intro s hs
  rcases move (n := n) p q s with h | h
  · rw [h]
    exact Disk.Keeps.refl touched _
  · exact Disk.Keeps.of_move h (hs ▸ hp) (hs ▸ hq)

theorem spares_remove (p : Path) (hp : touched (Disk.place here p)) :
    Spares here touched (Files.remove p : n (Except FileError Unit)) := by
  intro s hs
  rcases remove (n := n) p s with h | h
  · rw [h]
    exact Disk.Keeps.refl touched _
  · exact Disk.Keeps.of_sets (Disk.remove_inv _ _ p h) (hs ▸ hp)

theorem spares_makeFirst (ps : List Path) :
    Spares here touched (Files.makeFirst ps : n (Except FileError Unit)) := by
  -- Only directories are made, and each of them is looked for if it could not be made.
  have hfound : ∀ (p : Path) (e : FileError), Spares here touched
      ((do if ← Files.isDirectory p then return .ok () else return .error e) :
        n (Except FileError Unit)) := by
    intro p e
    refine (spares_isDirectory p).bind fun found => ?_
    cases found with
    | true => exact spares_pure _
    | false => exact spares_pure _
  induction ps with
  | nil => exact spares_pure _
  | cons p above ih =>
    unfold Files.makeFirst
    by_cases hp : p.isEmpty = true
    · rw [if_pos hp]
      exact spares_pure _
    rw [if_neg hp]
    refine (spares_makeDirectory p).bind fun r => ?_
    rcases r with e | u
    · cases e with
      | missing =>
        -- The directories above are made first, and then this one is tried again.
        refine ih.bind fun r => ?_
        cases r with
        | error e => exact spares_pure _
        | ok u =>
          refine (spares_makeDirectory p).bind fun r => ?_
          cases r with
          | error e => exact hfound p e
          | ok u => exact spares_pure _
      | _ => exact hfound p _
    · exact spares_pure _

end Plain

section Confined

variable {n : Type → Type} {S : Type} [Monad n] [Files n] [Host n S] {α β : Type}
  {here : Location} {touched : Location → Prop}

/-- Where relative paths start from `here`, the computation leaves all files as they are but those
at these places, and it fails only in operations on files. -/
def Confined (here : Location) (touched : Location → Prop) (x : Logged Failure n α) : Prop :=
  ∀ log, ∀ s : S, (disk n s).here = here →
    (disk n s).Keeps touched (disk n (outcome x log s).2) ∧
      ∀ f, (outcome x log s).1.1 = .error f → f.stage = .io

theorem confined_pure (a : α) : Confined here touched (pure a : Logged Failure n α) := by
  intro log s _
  rw [outcome_pure]
  exact ⟨Disk.Keeps.refl touched _, by simp⟩

theorem confined_throw {f : Failure} (hf : f.stage = .io) :
    Confined here touched (throw f : Logged Failure n α) := by
  intro log s _
  rw [outcome_throw]
  refine ⟨Disk.Keeps.refl touched _, fun f' hf' => ?_⟩
  rwa [← Except.error.inj hf']

/-- Confined computations are confined one after the other. -/
theorem Confined.bind {x : Logged Failure n α} {f : α → Logged Failure n β}
    (hx : Confined here touched x) (hf : ∀ a, Confined here touched (f a)) :
    Confined here touched (x >>= f) := by
  intro log s hs
  obtain ⟨hkeeps, hio⟩ := hx log s hs
  rw [outcome_bind]
  rcases hrun : outcome x log s with ⟨⟨⟨e⟩ | ⟨a⟩, log'⟩, s'⟩
  · rw [hrun] at hkeeps hio
    exact ⟨hkeeps, fun f' hf' => hio f' (by simpa using hf')⟩
  · -- The failure that counts is that of the second part, since the first has not failed.
    rw [hrun] at hkeeps
    obtain ⟨hkeeps', hio'⟩ := hf a log' s' (hkeeps.here.trans hs)
    exact ⟨hkeeps.trans hkeeps', hio'⟩

/-- What is done about a failure has to be done about failures of operations on files only. -/
theorem Confined.catch {x : Logged Failure n α} {h : Failure → Logged Failure n α}
    (hx : Confined here touched x) (hh : ∀ f, f.stage = .io → Confined here touched (h f)) :
    Confined here touched (tryCatch x h) := by
  intro log s hs
  obtain ⟨hkeeps, hio⟩ := hx log s hs
  rw [outcome_catch]
  rcases hrun : outcome x log s with ⟨⟨⟨e⟩ | ⟨a⟩, log'⟩, s'⟩
  · rw [hrun] at hkeeps hio
    obtain ⟨hkeeps', hio'⟩ := hh e (hio e rfl) log' s' (hkeeps.here.trans hs)
    exact ⟨hkeeps.trans hkeeps', hio'⟩
  · rw [hrun] at hkeeps
    exact ⟨hkeeps, by simp⟩

variable [LawfulMonad n]

theorem confined_record (event : Event) :
    Confined here touched (Logged.record event : Logged Failure n Unit) := by
  intro log s _
  rw [outcome_record]
  exact ⟨Disk.Keeps.refl touched _, by simp⟩

theorem Spares.confined_perform {action : n α} (h : Spares here touched action) :
    Confined here touched (Logged.perform action : Logged Failure n α) := by
  intro log s hs
  rw [outcome_perform]
  exact ⟨h s hs, by simp⟩

/-- An operation on files is confined to what it touches. -/
theorem Spares.confined_doAt {p : Path} {action : n (Except FileError α)}
    (h : Spares here touched action) : Confined here touched (Emission.doAt p action) := by
  intro log s hs
  rw [Emission.doAt, outcome_attempt]
  refine ⟨h s hs, fun f hf => ?_⟩
  cases hr : (exec action s).1 with
  | ok a => simp [hr, Except.mapError] at hf
  | error e =>
    rw [hr] at hf
    rw [← Except.error.inj hf]
    rfl

end Confined

section Still

variable {n : Type → Type} {S : Type} [Monad n] [Files n] [Host n S] {ε α β : Type}

def Still (x : Logged ε n α) : Prop :=
  ∀ log, ∀ s : S, disk n (outcome x log s).2 = disk n s

theorem still_pure (a : α) : Still (pure a : Logged ε n α) := by
  intro log s
  rw [outcome_pure]

theorem still_ofExcept (r : Except ε α) : Still (Logged.ofExcept r : Logged ε n α) := by
  intro log s
  rw [outcome_ofExcept]

theorem still_ofPure (x : Logged ε Id α) : Still (Logged.ofPure x : Logged ε n α) := by
  intro log s
  exact congrArg (fun r => disk n r.2) (exec_pure (n := n) (Id.run (x.run.run log)) s)

/-- Computations that leave the disk as it is do so one after the other. -/
theorem Still.bind {x : Logged ε n α} {f : α → Logged ε n β} (hx : Still x)
    (hf : ∀ a, Still (f a)) : Still (x >>= f) := by
  intro log s
  have h := hx log s
  rw [outcome_bind]
  rcases hrun : outcome x log s with ⟨⟨⟨e⟩ | ⟨a⟩, log'⟩, s'⟩
  · rw [hrun] at h
    exact h
  · rw [hrun] at h
    exact (hf a log' s').trans h

variable [LawfulMonad n]

theorem still_record (event : Event) : Still (Logged.record event : Logged ε n Unit) := by
  intro log s
  rw [outcome_record]

theorem still_attempt {δ : Type} {g : δ → ε} {action : n (Except δ α)}
    (h : ∀ s : S, disk n (exec action s).2 = disk n s) : Still (Logged.attempt g action) := by
  intro log s
  rw [outcome_attempt]
  exact h s

/-- A changeset is read wherever it is, and nothing else happens to the disk. -/
theorem still_load (source : ChangesetSource) :
    Still (Changeset.load source : Logged Failure n Table) := by
  have htext : Still (Changeset.readText source : Logged Failure n String) := by
    cases source with
    | inline text => exact still_pure text
    | file path => exact (still_attempt (read path)).bind fun _ => still_ofExcept _
    | standardInput => exact (still_attempt readInput).bind fun _ => still_ofExcept _
  refine htext.bind fun text => (still_ofPure _).bind fun table => ?_
  exact (still_record _).bind fun _ => still_pure table

end Still

end Host

end CrudLayer
