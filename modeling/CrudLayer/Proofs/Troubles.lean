import Mathlib
import CrudLayer.Proofs.Runs

/-!
Operations on files that fail for reasons of their own: the disk is full, a permission is missing, a
device is gone. Which of them fail, and how, is a list of troubles that are met one by one. A
computation is judged by all it can come to, whatever troubles it meets.
-/
namespace CrudLayer

/-- What goes wrong with an operation on files. -/
inductive Trouble
  /-- Nothing does. -/
  | none
  /-- The operation fails and changes nothing. -/
  | refused (e : FileError)
  /-- A file is written up to this length, and then the writing fails. Other operations go well. -/
  | cut (length : Nat) (e : FileError)

/-- Computations whose operations on files meet troubles, each the next one. Only the removal of
files never meets any. -/
abbrev Troubled (m : Type → Type) := StateT (Stream' Trouble) m

namespace Troubled

section Operations

variable {m : Type → Type} [Monad m] {α : Type}

def next : Troubled m Trouble := modifyGet fun ts => (ts.head, ts.tail)

def amid (refusal : FileError → α) (action : m α) : Troubled m α := do
  match ← next with
  | .refused e => return refusal e
  | _ => action

/-- Writes a file, or the part of it that comes before the trouble. -/
def write [Files m] (p : Path) (bytes : ByteArray) : Troubled m (Except FileError Unit) := do
  match ← next with
  | .none => StateT.lift (Files.write p bytes)
  | .refused e => return .error e
  | .cut length e =>
    match ← StateT.lift (Files.write p (bytes.extract 0 length)) with
    | .ok () => return .error e
    | .error fault => return .error fault

instance [Files m] : Files (Troubled m) where
  read p := amid .error (Files.read p)
  readInput := amid .error Files.readInput
  isPresent p := amid (fun _ => false) (Files.isPresent p)
  isDirectory p := amid (fun _ => false) (Files.isDirectory p)
  makeDirectory p := amid .error (Files.makeDirectory p)
  write := write
  move old new := amid .error (Files.move old new)
  remove p := StateT.lift (Files.remove p)

end Operations

def Within (T : Set Trouble) (ts : Stream' Trouble) : Prop := ∀ n, ts.get n ∈ T

/-- Whatever troubles of `T` it meets on a machine with the disk `d`, the action comes to a result
and a disk of which `post` holds, and leaves the standard input as it is. -/
def Acts {α : Type} (T : Set Trouble) (x : Troubled (StateM Machine) α) (d : Disk)
    (post : α → Disk → Prop) : Prop :=
  ∀ ts, Within T ts → ∀ input, ∃ a ts' d',
    (x.run ts).run ⟨d, input⟩ = pure ((a, ts'), ⟨d', input⟩) ∧ Within T ts' ∧ post a d'

section Rules

variable {T : Set Trouble} {α β : Type} {x : Troubled (StateM Machine) α}
  {f : α → Troubled (StateM Machine) β} {d d' : Disk} {post : α → Disk → Prop}

theorem Within.head {ts : Stream' Trouble} (h : Within T ts) : ts.head ∈ T := h 0

theorem Within.tail {ts : Stream' Trouble} (h : Within T ts) : Within T ts.tail :=
  fun n => h (n + 1)

theorem Acts.mono {post' : α → Disk → Prop} (h : Acts T x d post)
    (hpost : ∀ a d', post a d' → post' a d') : Acts T x d post' := by
  intro ts hts input
  obtain ⟨a, ts', d', hrun, hts', ha⟩ := h ts hts input
  exact ⟨a, ts', d', hrun, hts', hpost a d' ha⟩

theorem acts_pure {a : α} (h : post a d) : Acts T (pure a) d post :=
  fun ts hts _ => ⟨a, ts, d, rfl, hts, h⟩

/-- What an action comes to is what the next one starts from. -/
theorem Acts.bind {post' : β → Disk → Prop} (hx : Acts T x d post)
    (hf : ∀ a d', post a d' → Acts T (f a) d' post') : Acts T (x >>= f) d post' := by
  intro ts hts input
  obtain ⟨a, ts₁, d₁, hrun, hts₁, ha⟩ := hx ts hts input
  obtain ⟨b, ts₂, d₂, hrun', hts₂, hb⟩ := hf a d₁ ha ts₁ hts₁ input
  exact ⟨b, ts₂, d₂, by simp [hrun, hrun'], hts₂, hb⟩

/-- Each action meets one trouble, and goes on as this says. -/
theorem acts_next_bind {g : Trouble → Troubled (StateM Machine) β} {post' : β → Disk → Prop}
    (h : ∀ trouble ∈ T, Acts T (g trouble) d post') : Acts T (next >>= g) d post' := by
  intro ts hts input
  obtain ⟨b, ts', d', hrun, hts', hb⟩ := h ts.head hts.head ts.tail hts.tail input
  exact ⟨b, ts', d', by simpa [next] using hrun, hts', hb⟩

theorem acts_lift {action : StateM Machine α} {a : α}
    (hrun : ∀ input, action.run ⟨d, input⟩ = pure (a, ⟨d', input⟩)) (h : post a d') :
    Acts T (StateT.lift action) d post :=
  fun ts hts input => ⟨a, ts, d', by simp [hrun], hts, h⟩

/-- Amid troubles an action is made or refused. -/
theorem acts_amid {refusal : FileError → α} {action : StateM Machine α} {a : α}
    (hrun : ∀ input, action.run ⟨d, input⟩ = pure (a, ⟨d', input⟩)) (h : post a d')
    (hrefused : ∀ e, .refused e ∈ T → post (refusal e) d) :
    Acts T (amid refusal action) d post := by
  refine acts_next_bind fun trouble htrouble => ?_
  cases trouble with
  | refused e => exact acts_pure (hrefused e htrouble)
  | none => exact acts_lift hrun h
  | cut length e => exact acts_lift hrun h

end Rules

section Operations

variable {T : Set Trouble}

def Changed (f : Disk → Except FileError Disk) (d : Disk) : Except FileError Unit → Disk → Prop
  | .ok (), d' => f d = .ok d'
  | .error e, d' => d' = d ∧ f d = .error e

/-- A change of the disk is made, or it fails or is refused, and then nothing changes. -/
def Attempted (T : Set Trouble) (f : Disk → Except FileError Disk) (d : Disk) :
    Except FileError Unit → Disk → Prop
  | .ok (), d' => f d = .ok d'
  | .error e, d' => d' = d ∧ (f d = .error e ∨ .refused e ∈ T)

def Written (T : Set Trouble) (p : Path) (bytes : ByteArray) (d : Disk) :
    Except FileError Unit → Disk → Prop
  | .ok (), d' => .none ∈ T ∧ d.write p bytes = .ok d'
  | .error e, d' => d' = d ∧ (.refused e ∈ T ∨ ∃ bytes, d.write p bytes = .error e) ∨
    ∃ length, .cut length e ∈ T ∧ d.write p (bytes.extract 0 length) = .ok d'

theorem acts_lift_change (f : Disk → Except FileError Disk) (d : Disk) :
    Acts T (StateT.lift (Machine.change f)) d (Changed f d) := by
  cases hf : f d with
  | ok d' => exact acts_lift (Machine.run_change_ok hf) hf
  | error e => exact acts_lift (Machine.run_change_error hf) ⟨rfl, hf⟩

/-- A change is made, or fails, or is refused. -/
theorem acts_change (f : Disk → Except FileError Disk) (d : Disk) :
    Acts T (amid .error (Machine.change f)) d (Attempted T f d) := by
  have hchange : Acts T (StateT.lift (Machine.change f)) d (Attempted T f d) := by
    refine (acts_lift_change f d).mono fun r d' h => ?_
    cases r with
    | ok u => exact h
    | error e => exact ⟨h.1, Or.inl h.2⟩
  refine acts_next_bind fun trouble htrouble => ?_
  cases trouble with
  | refused e => exact acts_pure ⟨rfl, Or.inr htrouble⟩
  | none => exact hchange
  | cut length e => exact hchange

theorem acts_makeDirectory (p : Path) (d : Disk) :
    Acts T (Files.makeDirectory p) d (Attempted T (·.makeDirectory p) d) :=
  acts_change (·.makeDirectory p) d

theorem acts_move (p q : Path) (d : Disk) :
    Acts T (Files.move p q) d (Attempted T (·.move p q) d) :=
  acts_change (·.move p q) d

theorem acts_remove (p : Path) (d : Disk) :
    Acts T (Files.remove p) d (Changed (·.remove p) d) :=
  acts_lift_change (·.remove p) d

/-- A directory that cannot be asked for is taken for none. -/
theorem acts_isDirectory (p : Path) (d : Disk) :
    Acts T (Files.isDirectory p) d fun found d' => d' = d ∧
      (found = d.isDirectory p ∨ found = false ∧ ∃ e, .refused e ∈ T) :=
  acts_amid (fun _ => rfl) ⟨rfl, Or.inl rfl⟩ fun e he => ⟨rfl, Or.inr ⟨rfl, e, he⟩⟩

/-- A file is written, or a part of it, or nothing is. -/
theorem acts_write (p : Path) (bytes : ByteArray) (d : Disk) :
    Acts T (Files.write p bytes) d (Written T p bytes d) := by
  change Acts T (write p bytes) d (Written T p bytes d)
  refine acts_next_bind fun trouble htrouble => ?_
  cases trouble with
  | none =>
    refine (acts_lift_change (·.write p bytes) d).mono fun r d' h => ?_
    cases r with
    | ok u => exact ⟨htrouble, h⟩
    | error e => exact Or.inl ⟨h.1, Or.inr ⟨bytes, h.2⟩⟩
  | refused e => exact acts_pure (Or.inl ⟨rfl, Or.inl htrouble⟩)
  | cut length e =>
    refine (acts_lift_change (·.write p (bytes.extract 0 length)) d).bind fun r d' h => ?_
    cases r with
    | ok u => exact acts_pure (Or.inr ⟨length, htrouble, h⟩)
    | error fault =>
      obtain ⟨rfl, hw⟩ := h
      exact acts_pure (Or.inl ⟨rfl, Or.inr ⟨_, hw⟩⟩)

/-- A directory was made where none was, or was there, or could not be made. Unless something is
refused, the disk alone decides which. -/
structure Made (T : Set Trouble) (p : Path) (d : Disk) (r : Except FileError Unit) (d' : Disk) :
    Prop where
  grows : d.Grows d' (· = Disk.place d.here p)
  opened : r = .ok () → d'.Open p
  plain : (∀ e, .refused e ∉ T) → d.ensure p = (r, d')

structure Ensured (T : Set Trouble) (ps : List Path) (d : Disk) (r : Except FileError Unit)
    (d' : Disk) : Prop where
  grows : d.Grows d' fun l => ∃ p ∈ ps, l = Disk.place d.here p
  opened : r = .ok () → ∀ p ∈ ps.head?, p.isEmpty = false → d'.Open p
  plain : (∀ e, .refused e ∉ T) → d.ensureFirst ps = (r, d')

variable {p : Path} {d d₁ d' : Disk} {r : Except FileError Unit}

theorem made_of_makeDirectory (h : d.makeDirectory p = .ok d') : Made T p d (.ok ()) d' := by
  obtain ⟨hfree, hsets, hopen⟩ := Disk.makeDirectory_ok d d' p h
  exact ⟨Disk.Grows.of_sets hsets hfree rfl, fun _ => hopen, fun _ => by rw [Disk.ensure, h]⟩

theorem Made.ensured (h : Made T p d r d') (hp : p.isEmpty = false) (above : List Path)
    (hmiss : (∀ e, .refused e ∉ T) → d.makeDirectory p ≠ .error .missing) :
    Ensured T (p :: above) d r d' := by
  refine ⟨h.grows.mono fun l hl => ⟨p, List.mem_cons_self, hl⟩, fun hr => ?_, fun hnone => ?_⟩
  · simpa using fun _ => h.opened hr
  · rw [Disk.ensureFirst_not_missing d p above hp (hmiss hnone)]
    exact h.plain hnone

/-- A directory is made in one that was made for it. -/
theorem Made.ensured_below {above : List Path} (h : Made T p d₁ r d') (hp : p.isEmpty = false)
    (habove : Ensured T above d (.ok ()) d₁)
    (hmiss : (∀ e, .refused e ∉ T) → d.makeDirectory p = .error .missing) :
    Ensured T (p :: above) d r d' := by
  refine ⟨?_, fun hr => ?_, fun hnone => ?_⟩
  · have hhere := habove.grows.here
    refine (habove.grows.mono fun l => List.exists_mem_cons_of_exists).trans ?_
    exact h.grows.mono fun l hl => ⟨p, List.mem_cons_self, hhere ▸ hl⟩
  · simpa using fun _ => h.opened hr
  · rw [Disk.ensureFirst_missing d p above hp (hmiss hnone), habove.plain hnone]
    exact h.plain hnone

/-- A directory that could not be made may be there already. -/
theorem acts_found {e : FileError} (h : d.makeDirectory p = .error e ∨ .refused e ∈ T) :
    Acts T ((do if ← Files.isDirectory p then return .ok () else return .error e) :
      Troubled (StateM Machine) (Except FileError Unit)) d (Made T p d) := by
  have hplain : (∀ e, .refused e ∉ T) →
      d.ensure p = (if d.isDirectory p then .ok () else .error e, d) := by
    intro hnone
    rw [Disk.ensure, h.resolve_right (hnone e)]
  refine (acts_isDirectory p d).bind fun found d' hfound => ?_
  obtain ⟨rfl, rfl | ⟨rfl, e', he'⟩⟩ := hfound
  · cases hdir : d'.isDirectory p with
    | true =>
      refine acts_pure ⟨Disk.Grows.refl d' _, fun _ => (Disk.isDirectory_iff d' p).mp hdir, ?_⟩
      simpa [hdir] using hplain
    | false => exact acts_pure ⟨Disk.Grows.refl d' _, by simp, by simpa [hdir] using hplain⟩
  · exact acts_pure ⟨Disk.Grows.refl d' _, by simp, fun hnone => absurd he' (hnone e')⟩

/-- A directory that may be there already is made, and nothing is made above it. -/
theorem acts_ensure (p : Path) (d : Disk) :
    Acts T (do
      match ← Files.makeDirectory p with
      | .ok () => return .ok ()
      | .error e => if ← Files.isDirectory p then return .ok () else return .error e)
      d (Made T p d) := by
  refine (acts_makeDirectory p d).bind fun r d' h => ?_
  cases r with
  | ok u => exact acts_pure (made_of_makeDirectory h)
  | error e =>
    obtain ⟨rfl, he⟩ := h
    exact acts_found he

/-- Directories are made one below the other, as far as none is refused. -/
theorem acts_makeFirst (ps : List Path) (d : Disk) :
    Acts T (Files.makeFirst ps) d (Ensured T ps d) := by
  induction ps generalizing d with
  | nil => exact acts_pure ⟨Disk.Grows.refl d _, by simp, fun _ => rfl⟩
  | cons p above ih =>
    unfold Files.makeFirst
    by_cases hp : p.isEmpty = true
    · rw [if_pos hp]
      refine acts_pure ⟨Disk.Grows.refl d _, by simp [hp], fun _ => ?_⟩
      rw [Disk.ensureFirst, if_pos hp]
    rw [if_neg hp]
    rw [Bool.not_eq_true] at hp
    refine (acts_makeDirectory p d).bind fun r d₁ h => ?_
    rcases r with e | u
    · obtain ⟨rfl, he⟩ := h
      by_cases hmissing : e = .missing
      · -- The directory above is made first, and then this one.
        subst hmissing
        have hmiss := fun hnone : ∀ e, .refused e ∉ T => he.resolve_right (hnone _)
        refine (ih d₁).bind fun r d₂ habove => ?_
        rcases r with e | u
        · refine acts_pure ⟨?_, by simp, fun hnone => ?_⟩
          · exact habove.grows.mono fun l => List.exists_mem_cons_of_exists
          · rw [Disk.ensureFirst_missing d₁ p above hp (hmiss hnone), habove.plain hnone]
        · exact (acts_ensure p d₂).mono fun r d' hmade => hmade.ensured_below hp habove hmiss
      · -- Whatever was met, the directory may be there already.
        have hmiss : (∀ e, .refused e ∉ T) → d₁.makeDirectory p ≠ .error .missing := by
          intro hnone hmake
          have heq := (he.resolve_right (hnone e)).symm.trans hmake
          exact hmissing (Except.error.inj heq)
        have hfound := (acts_found he).mono fun r d' hmade => hmade.ensured hp above hmiss
        cases e with
        | missing => exact absurd rfl hmissing
        | _ => exact hfound
    · refine acts_pure ((made_of_makeDirectory h).ensured hp above fun _ => ?_)
      simp [show d.makeDirectory p = .ok d₁ from h]

end Operations

/-- The same as `Acts`, of a computation that records events and may fail, whatever it has recorded
before. -/
def Ends {ε α : Type} (T : Set Trouble) (x : Logged ε (Troubled (StateM Machine)) α) (d : Disk)
    (post : Except ε α → Disk → Prop) : Prop :=
  ∀ log, Acts T (x.run.run log) d fun r d' => post r.1 d'

section Computations

variable {T : Set Trouble} {ε α β : Type} {x : Logged ε (Troubled (StateM Machine)) α}
  {f : α → Logged ε (Troubled (StateM Machine)) β} {d : Disk}
  {post post' : Except ε α → Disk → Prop}

/-- Less may be said of all that it comes to. -/
theorem Ends.mono (h : Ends T x d post) (hpost : ∀ r d', post r d' → post' r d') :
    Ends T x d post' :=
  fun log => (h log).mono fun r d' hr => hpost r.1 d' hr

/-- All that holds of what a computation comes to holds of one result and one disk. -/
theorem Ends.exists_both (h : Ends T x d post) (h' : Ends T x d post') {trouble : Trouble}
    (htrouble : trouble ∈ T) : ∃ r d', post r d' ∧ post' r d' := by
  have hts : Within T (Stream'.const trouble) := fun _ => htrouble
  obtain ⟨r, ts, d₁, hrun, -, hr⟩ := h [] _ hts .empty
  obtain ⟨r', ts', d₂, hrun', -, hr'⟩ := h' [] _ hts .empty
  have heq : ((r, ts), (⟨d₁, .empty⟩ : Machine)) = ((r', ts'), ⟨d₂, .empty⟩) :=
    hrun.symm.trans hrun'
  simp only [Prod.mk.injEq, Machine.mk.injEq, and_true] at heq
  obtain ⟨⟨rfl, -⟩, rfl⟩ := heq
  exact ⟨r.1, d₁, hr, hr'⟩

theorem ends_pure {a : α} (h : post (.ok a) d) : Ends T (pure a) d post :=
  fun log => acts_pure (a := (Except.ok a, log)) h

theorem ends_throw {e : ε} (h : post (.error e) d) : Ends T (throw e) d post :=
  fun log => acts_pure (a := (Except.error e, log)) h

/-- A computation goes on only where it has not failed. -/
theorem Ends.bind {post' : Except ε β → Disk → Prop} (hx : Ends T x d post)
    (hok : ∀ a d', post (.ok a) d' → Ends T (f a) d' post')
    (herror : ∀ e d', post (.error e) d' → post' (.error e) d') : Ends T (x >>= f) d post' := by
  intro log
  rw [ExceptT.run_bind, StateT.run_bind]
  refine (hx log).bind fun r d' hr => ?_
  obtain ⟨e | a, log'⟩ := r
  · exact acts_pure (a := (Except.error e, log')) (herror e d' hr)
  · exact hok a d' hr log'

/-- What is done about a failure starts from the disk that it has left. -/
theorem Ends.catch {h : ε → Logged ε (Troubled (StateM Machine)) α} (hx : Ends T x d post)
    (hok : ∀ a d', post (.ok a) d' → post' (.ok a) d')
    (herror : ∀ e d', post (.error e) d' → Ends T (h e) d' post') :
    Ends T (tryCatch x h) d post' := by
  intro log
  rw [Logged.run_tryCatch, StateT.run_bind]
  refine (hx log).bind fun r d' hr => ?_
  obtain ⟨e | a, log'⟩ := r
  · exact herror e d' hr log'
  · exact acts_pure (a := (Except.ok a, log')) (hok a d' hr)

theorem ends_attempt {δ : Type} {g : δ → ε} {action : Troubled (StateM Machine) (Except δ α)}
    (h : Acts T action d fun r d' => post (r.mapError g) d') :
    Ends T (Logged.attempt g action) d post := by
  intro log
  have hrun : (Logged.attempt g action).run.run log = action >>= fun r =>
      pure (r.mapError g, log) := by
    simp [Logged.attempt]
  rw [hrun]
  exact h.bind fun r d' hr => acts_pure hr

theorem ends_perform_bind {action : Troubled (StateM Machine) α} {post : α → Disk → Prop}
    {post' : Except ε β → Disk → Prop} (h : Acts T action d post)
    (hf : ∀ a d', post a d' → Ends T (f a) d' post') :
    Ends T (Logged.perform action >>= f) d post' := by
  intro log
  have hrun : (Logged.perform action >>= f).run.run log = action >>= fun a =>
      (f a).run.run log := by
    simp [Logged.perform, ExceptT.run_bind]
  rw [hrun]
  exact h.bind fun a d' ha => hf a d' ha log

theorem ends_record_bind {event : Event} {f : Unit → Logged ε (Troubled (StateM Machine)) β}
    {post : Except ε β → Disk → Prop} (h : Ends T (f ()) d post) :
    Ends T (Logged.record event >>= f) d post :=
  fun log => h (log ++ [event])

theorem ends_throw_bind {e : ε} {post : Except ε β → Disk → Prop} (h : post (.error e) d) :
    Ends T (throw e >>= f) d post :=
  fun log => acts_pure (a := (Except.error e, log)) h

end Computations

end Troubled
end CrudLayer
