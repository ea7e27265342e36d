import Mathlib
import CrudLayer.Config.Loading
import CrudLayer.Proofs.Hosts
import CrudLayer.Proofs.PackageGrammar

namespace CrudLayer

/-- What is seen at each path: nothing, or what comes of reading it. -/
abbrev Sights := Path → Option (Except FileError ByteArray)

def Disk.sights (d : Disk) : Sights := fun p => if d.isPresent p then some (d.read p) else none

namespace Executor

variable {n : Type → Type} {S : Type} [Monad n] [Files n] [Executor n S]

/-- In this state it is seen what is at each path, and looking there changes nothing. -/
structure Shows (n : Type → Type) {S : Type} [Monad n] [Files n] [Executor n S] (s : S)
    (v : Sights) : Prop where
  present (p : Path) : exec (Files.isPresent p : n Bool) s = ((v p).isSome, s)
  read (p : Path) (content : Except FileError ByteArray) (h : v p = some content) :
    exec (Files.read p : n (Except FileError ByteArray)) s = (content, s)

/-- On a machine what is seen is what the disk has. -/
theorem machine_shows (m : Machine) : Shows (StateM Machine) m m.disk.sights where
  present p := by
    have hpresent : (m.disk.sights p).isSome = m.disk.isPresent p := by
      cases hp : m.disk.isPresent p <;> simp [Disk.sights, hp]
    rw [hpresent]
    rfl
  read p content h := by
    rw [Disk.sights, Option.ite_none_right_eq_some] at h
    rw [← Option.some.inj h.2]
    rfl

end Executor

namespace Config

open Executor

/-- The one path that is looked at: the one that was asked for, or else the one beside the
changeset. -/
def lookedAt? (explicit changeset : Option Path) : Option Path :=
  explicit <|> (changeset.bind Path.parent?).map (·.join ⟨configFileName⟩)

def settingsIn (p : Path) (content : Except FileError ByteArray) : Except ConfigFailure Settings :=
  match content with
  | .error e => .error (.fileUnreadable p e)
  | .ok bytes =>
    match Text.Utf8.decode bytes with
    | .error _ => .error (.fileUnreadable p .notText)
    | .ok text =>
      match Settings.ofDocument? text with
      | some settings => .ok settings
      | none => .error (.fileMalformed p)

def supplied (v : Sights) (explicit changeset : Option Path) :
    Except ConfigFailure Settings × Log :=
  match lookedAt? explicit changeset with
  | none => (.ok {}, [])
  | some p =>
    match v p with
    | some content => (settingsIn p content, [.configUsed p])
    | none => (if explicit.isSome then .error (.fileMissing p) else .ok {}, [])

theorem supplied_of_seen {v : Sights} {explicit changeset : Option Path} {p : Path}
    {content : Except FileError ByteArray} (hlooked : lookedAt? explicit changeset = some p)
    (hp : v p = some content) :
    supplied v explicit changeset = (settingsIn p content, [.configUsed p]) := by
  simp only [supplied, hlooked, hp]

theorem supplied_of_missing {v : Sights} {p : Path} (changeset : Option Path) (hp : v p = none) :
    supplied v (some p) changeset = (.error (.fileMissing p), []) := by
  have hlooked : lookedAt? (some p) changeset = some p := rfl
  simp only [supplied, hlooked, hp, Option.isSome_some, if_true]

/-- A file that nobody asked for may be missing. -/
theorem supplied_of_none {v : Sights} {changeset : Option Path}
    (h : ∀ p, lookedAt? none changeset = some p → v p = none) :
    supplied v none changeset = (.ok {}, []) := by
  cases hlooked : lookedAt? none changeset with
  | none => simp only [supplied, hlooked]
  | some p => simp [supplied, hlooked, h p hlooked]

section

variable {n : Type → Type} {S : Type} [Monad n] [Files n] [Executor n S] {s : S} {v : Sights}

/-- The file that is used is the one that was asked for, or else the one that is looked at, if it is
there. -/
theorem exec_file? (h : Shows n s v) (explicit changeset : Option Path) :
    exec (file? explicit changeset : n (Option Path)) s =
      (explicit <|> (lookedAt? explicit changeset).filter fun p => (v p).isSome, s) := by
  cases explicit with
  | some p => exact exec_pure _ _
  | none =>
    unfold file? lookedAt?
    cases changeset.bind Path.parent? with
    | none => exact exec_pure _ _
    | some folder =>
      simp only [exec_bind, h.present, exec_pure]
      simp [Option.filter]

variable [LawfulMonad n]

/-- What is loaded from a file depends only on what is seen at its path. -/
theorem outcome_load (h : Shows n s v) (p : Path) (content : Except FileError ByteArray)
    (hp : v p = some content) (log : Log) :
    outcome (Settings.load p : Logged ConfigFailure n (Option Settings)) log s =
      (((settingsIn p content).map some, log), s) := by
  rw [Settings.load, outcome_bind, outcome_perform, h.present, hp]
  simp only [Option.isSome_some, if_true]
  rw [outcome_bind, outcome_attempt, h.read p content hp]
  cases content with
  | error e => rfl
  | ok bytes =>
    simp only [settingsIn, Except.mapError]
    cases Text.Utf8.decode bytes with
    | error fault => exact outcome_throw _ _ _
    | ok text =>
      dsimp only
      cases Settings.ofDocument? text with
      | none => exact outcome_throw _ _ _
      | some settings => exact outcome_pure _ _ _

def chooseWith (flags : Settings) (used : Option Path) : Logged ConfigFailure n Config := do
  let fromFile ← match used with
    | some path => do
      Logged.record (.configUsed path)
      pure ((← Settings.load path).getD {})
    | none => pure {}
  Logged.ofExcept ((flags.orElse fromFile).resolve.mapError .invalid)

theorem outcome_chooseWith (h : Shows n s v) (flags : Settings) (p : Path)
    (content : Except FileError ByteArray) (hp : v p = some content) (log : Log) :
    outcome (chooseWith flags (some p) : Logged ConfigFailure n Config) log s =
      (((settingsIn p content).bind fun file => (flags.orElse file).resolve.mapError .invalid,
        log ++ [.configUsed p]), s) := by
  simp only [chooseWith, outcome_bind, outcome_record, outcome_load h p content hp]
  cases settingsIn p content with
  | error f => rfl
  | ok file =>
    simp only [Except.map, outcome_pure, Option.getD_some]
    exact outcome_ofExcept _ _ _

/-- A file that was asked for is used if it is there, and else the choice fails. -/
theorem outcome_choose_some (h : Shows n s v) (flags : Settings) (p : Path)
    (changeset : Option Path) (log : Log) :
    outcome (choose flags (some p) changeset : Logged ConfigFailure n Config) log s =
      if (v p).isSome then
        outcome (chooseWith flags (some p) : Logged ConfigFailure n Config) log s
      else ((.error (.fileMissing p), log), s) := by
  rw [choose, outcome_bind, outcome_perform, h.present]
  dsimp only
  split
  · rw [outcome_bind, outcome_perform, exec_file? h]
    rfl
  · rw [outcome_bind, outcome_throw]

/-- Everything that comes of choosing a configuration is told by what is seen at one path. -/
theorem outcome_choose (h : Shows n s v) (flags : Settings) (explicit changeset : Option Path)
    (log : Log) :
    outcome (choose flags explicit changeset : Logged ConfigFailure n Config) log s =
      (((supplied v explicit changeset).1.bind fun file =>
          (flags.orElse file).resolve.mapError .invalid,
        log ++ (supplied v explicit changeset).2), s) := by
  cases explicit with
  | some p =>
    rw [outcome_choose_some h]
    cases hp : v p with
    | none => simp [supplied_of_missing changeset hp, Except.bind]
    | some content =>
      rw [supplied_of_seen rfl hp]
      exact outcome_chooseWith h flags p content hp log
  | none =>
    -- Nobody asked for the file beside the changeset, so it counts only where it is seen.
    have hused : outcome (choose flags none changeset : Logged ConfigFailure n Config) log s =
        outcome (chooseWith flags ((lookedAt? none changeset).filter fun p => (v p).isSome) :
          Logged ConfigFailure n Config) log s := by
      have hfile := exec_file? h none changeset
      unfold choose
      dsimp only
      rw [outcome_bind, outcome_perform, hfile]
      rfl
    rw [hused]
    by_cases hseen : ∃ p content, lookedAt? none changeset = some p ∧ v p = some content
    · obtain ⟨p, content, hlooked, hp⟩ := hseen
      have hfilter : (lookedAt? none changeset).filter (fun p => (v p).isSome) = some p := by
        simp [hlooked, Option.filter, hp]
      rw [hfilter, supplied_of_seen hlooked hp]
      exact outcome_chooseWith h flags p content hp log
    · have hnone : ∀ p, lookedAt? none changeset = some p → v p = none := by
        intro p hlooked
        rw [← Option.not_isSome_iff_eq_none, Option.isSome_iff_exists]
        exact fun hp => hseen ⟨p, hp.choose, hlooked, hp.choose_spec⟩
      have hfilter : (lookedAt? none changeset).filter (fun p => (v p).isSome) = none := by
        rw [Option.filter_eq_none_iff]
        intro p hlooked
        simp [hnone p hlooked]
      rw [hfilter, supplied_of_none hnone]
      simp only [chooseWith, outcome_bind, outcome_pure, List.append_nil]
      exact outcome_ofExcept _ _ _

end

end Config
end CrudLayer
