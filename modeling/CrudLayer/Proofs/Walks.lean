import Mathlib
import CrudLayer.Disk.Basic
import CrudLayer.Proofs.Paths

/-!
Walks on a disk. A tree without links gives every path one place, which its segments decide, and
looking the path up either comes to that place or fails. So the place of a path can be named before
anything is there.
-/
namespace CrudLayer.Disk

section Outcomes

variable {ε α β : Type}

@[simp] theorem ok_bind (a : α) (f : α → Except ε β) : (Except.ok a >>= f) = f a := rfl

@[simp] theorem error_bind (e : ε) (f : α → Except ε β) :
    (Except.error e >>= f) = .error e := rfl

@[simp] theorem pure_eq_ok (a : α) : (pure a : Except ε α) = .ok a := rfl

@[simp] theorem throw_eq_error (e : ε) : (throw e : Except ε α) = .error e := rfl

end Outcomes

def enter (l : Location) (s : String) : Location :=
  if Path.isIdle s then l else if s = ".." then l.tail else s :: l

def reach (l : Location) (ss : List String) : Location := ss.foldl enter l

def origin (here : Location) (p : Path) : Location := if p.anchor = .root then [] else here

/-- The place of a path, for relative paths that start from `here`. -/
def place (here : Location) (p : Path) : Location := reach (origin here p) p.body

/-- The place lies on the way that a path takes, its two ends included. -/
def OnWay (here : Location) (p : Path) (l : Location) : Prop :=
  ∃ front, front <+: p.body ∧ l = reach (origin here p) front

/-- Segments lead on from where those before them have led. -/
theorem reach_append (l : Location) (xs ys : List String) :
    reach l (xs ++ ys) = reach (reach l xs) ys := by
  simp [reach]

theorem enter_name (l : Location) (n : String) (h : Path.IsName n) : enter l n = n :: l := by
  simp [enter, h.not_idle, h.ne_dots]

/-- Names lead down. -/
theorem reach_names (l : Location) (names : List String) (hn : ∀ n ∈ names, Path.IsName n) :
    reach l names = names.reverse ++ l := by
  induction names generalizing l with
  | nil => rfl
  | cons n rest ih =>
    have hrest := ih (n :: l) fun m hm => hn m (by simp [hm])
    simp only [reach, List.foldl_cons, enter_name l n (hn n (by simp))]
    simpa [reach] using hrest

/-- The end of a way lies on it. -/
theorem onWay_place (here : Location) (p : Path) : OnWay here p (place here p) :=
  ⟨p.body, List.prefix_rfl, rfl⟩

/-- What lies on the way to a directory above lies on the way. -/
theorem onWay_of_mem_parents (here : Location) (p q : Path) (hq : q ∈ p.parents) (l : Location)
    (h : OnWay here q l) : OnWay here p l := by
  obtain ⟨hanchor, hbody⟩ := Path.of_mem_parents p q hq
  have horigin : origin here q = origin here p := by
    unfold origin
    simp only [hanchor]
  obtain ⟨front, hfront, rfl⟩ := h
  rw [horigin]
  rcases hbody with hb | hb
  · -- The path above names the start of the way and no more.
    rw [hb] at hfront
    refine ⟨[], List.nil_prefix, ?_⟩
    rcases List.prefix_cons_iff.mp hfront with rfl | ⟨t, rfl, ht⟩
    · rfl
    · rw [List.prefix_nil.mp ht]
      rfl
  · exact ⟨front, hfront.trans hb, rfl⟩

/-- What a directory is in is a directory. -/
theorem directory_tail (d : Disk) (l : Location) (h : d.entry? l = some .directory) :
    d.entry? l.tail = some .directory := by
  cases l with
  | nil => exact h
  | cons n l =>
    refine d.in_directory n l fun hnone => ?_
    have hsome : entryIn d.entries (n :: l) = some .directory := h
    simp [hnone] at hsome

theorem directory_origin (d : Disk) (p : Path) :
    d.entry? (origin d.here p) = some .directory := by
  unfold origin
  split
  · rfl
  · exact d.here_directory

/-- From a directory a segment leads where `enter` says, if it is short and something is there. -/
theorem step_of_directory (d : Disk) (l : Location) (s : String)
    (hdir : d.entry? l = some .directory) :
    d.step l s =
      if isTooLong s = true then .error .nameTooLong
      else if d.entry? (enter l s) = none then .error .missing
      else .ok (enter l s) := by
  unfold step enter
  simp only [hdir]
  -- The three kinds of segment: one that stays, one that goes up, a name.
  by_cases hidle : Path.isIdle s = true
  · have hshort : isTooLong s = false := by
      rcases Bool.or_eq_true_iff.mp hidle with h | h <;>
        exact (of_decide_eq_true h) ▸ by decide
    simp [hidle, hshort, hdir]
  · by_cases hdots : s = ".."
    · subst hdots
      have hshort : isTooLong ".." = false := by decide
      simp [hidle, hshort, d.directory_tail l hdir]
    · simp only [hidle, hdots, if_false, Bool.false_eq_true]
      cases he : d.entry? (s :: l) <;> simp

/-- A step can be made from a directory to something that is there. -/
theorem step_eq_ok_iff (d : Disk) (l l' : Location) (s : String) :
    d.step l s = .ok l' ↔
      d.entry? l = some .directory ∧ isTooLong s = false ∧ l' = enter l s ∧
        d.entry? l' ≠ none := by
  by_cases hdir : d.entry? l = some .directory
  · rw [step_of_directory d l s hdir]
    by_cases hlong : isTooLong s = true
    · simp [hlong]
    · by_cases hnone : d.entry? (enter l s) = none
      · simp only [hlong, hnone, if_true, if_false, Bool.false_eq_true, reduceCtorEq, false_iff]
        rintro ⟨-, -, rfl, h⟩
        exact h hnone
      · simp only [hlong, hnone, if_false, Bool.false_eq_true, Except.ok.injEq, hdir, true_and]
        exact ⟨fun h => ⟨h.symm, h ▸ hnone⟩, fun h => h.1.symm⟩
  · unfold step
    cases he : d.entry? l with
    | none => simp
    | some e =>
      cases e with
      | directory => exact absurd he hdir
      | file bytes => simp

/-- Every place that segments lead to on their way from another is a directory, and none of the
segments is too long. -/
structure Walk (d : Disk) (l : Location) (ss : List String) : Prop where
  directory : ∀ front, front <+: ss → d.entry? (reach l front) = some .directory
  short : ∀ s ∈ ss, isTooLong s = false

theorem walk_nil_iff (d : Disk) (l : Location) :
    d.Walk l [] ↔ d.entry? l = some .directory := by
  constructor
  · intro h
    exact h.directory [] List.prefix_rfl
  · intro h
    refine ⟨fun front hf => ?_, by simp⟩
    rw [List.prefix_nil.mp hf]
    exact h

theorem walk_cons_iff (d : Disk) (l : Location) (s : String) (ss : List String) :
    d.Walk l (s :: ss) ↔
      d.entry? l = some .directory ∧ isTooLong s = false ∧ d.Walk (enter l s) ss := by
  constructor
  · intro h
    refine ⟨h.directory [] (List.nil_prefix), h.short s (by simp), ?_, ?_⟩
    · intro front hf
      exact h.directory (s :: front) ((List.prefix_cons_inj s).mpr hf)
    · exact fun r hr => h.short r (by simp [hr])
  · rintro ⟨hdir, hshort, hrest⟩
    refine ⟨?_, ?_⟩
    · intro front hf
      cases front with
      | nil => exact hdir
      | cons r front =>
        obtain ⟨rfl, hfront⟩ := List.cons_prefix_cons.mp hf
        exact hrest.directory front hfront
    · intro r hr
      rcases List.mem_cons.mp hr with rfl | hr
      · exact hshort
      · exact hrest.short r hr

/-- Looking segments up comes to a directory exactly if they make a walk. -/
theorem foldlM_step_iff (d : Disk) (l l' : Location) (ss : List String) :
    ss.foldlM d.step l = .ok l' ∧ d.entry? l' = some .directory ↔
      d.Walk l ss ∧ l' = reach l ss := by
  induction ss generalizing l with
  | nil =>
    simp only [List.foldlM_nil, pure, Except.pure, Except.ok.injEq, walk_nil_iff, reach,
      List.foldl_nil]
    constructor
    · rintro ⟨rfl, h⟩
      exact ⟨h, rfl⟩
    · rintro ⟨h, rfl⟩
      exact ⟨rfl, h⟩
  | cons s ss ih =>
    rw [List.foldlM_cons, walk_cons_iff]
    constructor
    · rintro ⟨hrun, hdir⟩
      cases hs : d.step l s with
      | error e => simp [hs] at hrun
      | ok l₁ =>
        obtain ⟨hl, hshort, rfl, -⟩ := (step_eq_ok_iff d l l₁ s).mp hs
        rw [hs] at hrun
        obtain ⟨hwalk, rfl⟩ := (ih (enter l s)).mp ⟨hrun, hdir⟩
        exact ⟨⟨hl, hshort, hwalk⟩, rfl⟩
    · rintro ⟨⟨hl, hshort, hwalk⟩, rfl⟩
      -- A walk ends in a directory, and so does each part of it.
      have hnext : d.entry? (enter l s) = some .directory := hwalk.directory [] List.nil_prefix
      have hs : d.step l s = .ok (enter l s) :=
        (step_eq_ok_iff d l _ s).mpr ⟨hl, hshort, rfl, by simp [hnext]⟩
      rw [hs]
      exact (ih (enter l s)).mpr ⟨hwalk, rfl⟩

/-- A walk may be made in two parts. -/
theorem walk_append_iff (d : Disk) (l : Location) (xs ys : List String) :
    d.Walk l (xs ++ ys) ↔ d.Walk l xs ∧ d.Walk (reach l xs) ys := by
  induction xs generalizing l with
  | nil =>
    rw [List.nil_append, walk_nil_iff]
    exact ⟨fun h => ⟨h.directory [] List.nil_prefix, h⟩, fun h => h.2⟩
  | cons s xs ih =>
    rw [List.cons_append, walk_cons_iff, walk_cons_iff, ih]
    simp only [reach, List.foldl_cons, and_assoc]

theorem walk_singleton_iff (d : Disk) (l : Location) (s : String) :
    d.Walk l [s] ↔ d.entry? l = some .directory ∧ isTooLong s = false ∧
      d.entry? (enter l s) = some .directory := by
  rw [walk_cons_iff, walk_nil_iff]

theorem reach_empties (l : Location) (k : ℕ) : reach l (List.replicate k "") = l := by
  induction k with
  | zero => rfl
  | succ k ih =>
    rw [List.replicate_succ]
    exact ih

theorem walk_empties_iff (d : Disk) (l : Location) (k : ℕ) :
    d.Walk l (List.replicate k "") ↔ d.entry? l = some .directory := by
  induction k with
  | zero => exact walk_nil_iff d l
  | succ k ih =>
    have hshort : isTooLong "" = false := by decide
    have hstay : enter l "" = l := rfl
    rw [List.replicate_succ, walk_cons_iff, hstay, ih]
    simp [hshort]

/-- A system takes this text for a path: it has no zero in it, is not empty and not too long. -/
structure Usable (p : Path) : Prop where
  no_zero : ∀ c ∈ p.text.toList, c.toNat ≠ 0
  not_empty : p.isEmpty = false
  short : p.text.utf8ByteSize < 4096

/-- A text that is no path is refused before the disk is looked at. -/
theorem locate_of_not_usable (p : Path) (h : ¬ Usable p) :
    ∃ e, ∀ d : Disk, d.locate p = .error e := by
  by_cases h1 : p.text.toList.any (·.toNat = 0) = true
  · exact ⟨.zeroInName, fun d => by rw [locate, if_pos h1]⟩
  · by_cases h2 : p.isEmpty = true
    · exact ⟨.missing, fun d => by rw [locate, if_neg h1, if_pos h2]⟩
    · refine ⟨.nameTooLong, fun d => ?_⟩
      have h3 : p.text.utf8ByteSize ≥ 4096 := by
        by_contra hlt
        refine h ⟨fun c hc hz => h1 ?_, by simpa using h2, by omega⟩
        exact List.any_eq_true.mpr ⟨c, hc, by simpa using hz⟩
      rw [locate, if_neg h1, if_neg h2, if_pos h3]

theorem locate_of_usable (d : Disk) (p : Path) (h : Usable p) :
    d.locate p =
      match p.body.reverse.dropWhile (· = "") with
      | [] => .ok (.directory (origin d.here p))
      | last :: before => do
        let parent ← before.reverse.foldlM d.step (origin d.here p)
        if last = "." ∨ last = ".." then return .directory (← d.step parent last)
        else return .named parent last (decide (p.text.toList.getLast? = some '/')) := by
  have h1 : ¬ p.text.toList.any (·.toNat = 0) = true := by
    intro hany
    obtain ⟨c, hc, hz⟩ := List.any_eq_true.mp hany
    exact h.no_zero c hc (by simpa using hz)
  have h3 : ¬ p.text.utf8ByteSize ≥ 4096 := by
    have hs := h.short
    omega
  rw [locate, if_neg h1, if_neg (by simp [h.not_empty]), if_neg h3]
  rfl

/-- Segments are all empty, or end in one that is not and empty ones after it. -/
theorem trimmed_cases (ss : List String) :
    (∃ k, ss = List.replicate k "") ∨
      ∃ front last k, ss = front ++ last :: List.replicate k "" ∧ last ≠ "" := by
  induction ss using List.reverseRecOn with
  | nil => exact Or.inl ⟨0, rfl⟩
  | append_singleton ss s ih =>
    by_cases hs : s = ""
    · subst hs
      rcases ih with ⟨k, rfl⟩ | ⟨front, last, k, rfl, hlast⟩
      · exact Or.inl ⟨k + 1, by rw [List.replicate_succ']⟩
      · exact Or.inr ⟨front, last, k + 1, by rw [List.replicate_succ']; simp, hlast⟩
    · exact Or.inr ⟨ss, s, 0, rfl, hs⟩

theorem locate_of_empties (d : Disk) (p : Path) (h : Usable p) (k : ℕ)
    (hbody : p.body = List.replicate k "") :
    d.locate p = .ok (.directory (origin d.here p)) := by
  have hdrop : p.body.reverse.dropWhile (· = "") = [] := by
    rw [List.dropWhile_eq_nil_iff, hbody]
    intro s hs
    simpa using List.eq_of_mem_replicate (List.mem_reverse.mp hs)
  rw [locate_of_usable d p h, hdrop]

/-- A path is looked up to its last segment, which need not be there. -/
theorem locate_of_last (d : Disk) (p : Path) (h : Usable p) (front : List String) (last : String)
    (k : ℕ) (hbody : p.body = front ++ last :: List.replicate k "") (hlast : last ≠ "") :
    d.locate p = do
      let parent ← front.foldlM d.step (origin d.here p)
      if last = "." ∨ last = ".." then return .directory (← d.step parent last)
      else return .named parent last (decide (p.text.toList.getLast? = some '/')) := by
  have hdrop : p.body.reverse.dropWhile (· = "") = last :: front.reverse := by
    rw [hbody, List.reverse_append, List.reverse_cons, List.reverse_replicate, List.append_assoc,
      List.dropWhile_append_of_pos]
    · simp [hlast]
    · intro s hs
      simpa using List.eq_of_mem_replicate hs
  rw [locate_of_usable d p h, hdrop]
  simp only [List.reverse_reverse]

/-- A directory is at the path: every place on the way to it is one. -/
structure Open (d : Disk) (p : Path) : Prop where
  usable : Usable p
  walk : d.Walk (origin d.here p) p.body

theorem directory_enter (d : Disk) (l : Location) (s : String) (hs : s = "." ∨ s = "..")
    (hdir : d.entry? l = some .directory) : d.entry? (enter l s) = some .directory := by
  rcases hs with rfl | rfl
  · exact hdir
  · exact d.directory_tail l hdir

/-- To walk to the last name, it is enough that there is a directory of that name. -/
theorem walk_last_iff (d : Disk) (l : Location) (front : List String) (last : String) (k : ℕ) :
    d.Walk l (front ++ last :: List.replicate k "") ↔
      d.Walk l front ∧ isTooLong last = false ∧
        d.entry? (enter (reach l front) last) = some .directory := by
  have hsplit : front ++ last :: List.replicate k "" =
      (front ++ [last]) ++ List.replicate k "" := by simp
  rw [hsplit, walk_append_iff, walk_append_iff, walk_singleton_iff, walk_empties_iff, reach_append]
  constructor
  · rintro ⟨⟨hf, -, hshort, hdir⟩, -⟩
    exact ⟨hf, hshort, hdir⟩
  · rintro ⟨hf, hshort, hdir⟩
    exact ⟨⟨hf, hf.directory front List.prefix_rfl, hshort, hdir⟩, hdir⟩

/-- Whether a directory is at a path is told by its last segment. -/
theorem isDirectory_of_last (d : Disk) (p : Path) (h : Usable p) (front : List String)
    (last : String) (k : ℕ) (hbody : p.body = front ++ last :: List.replicate k "")
    (hlast : last ≠ "") (parent : Location)
    (hparent : front.foldlM d.step (origin d.here p) = .ok parent) :
    d.isDirectory p = true ↔
      d.entry? parent = some .directory ∧ isTooLong last = false ∧
        d.entry? (enter parent last) = some .directory := by
  have hloc := locate_of_last d p h front last k hbody hlast
  cases hs : d.step parent last with
  | error e =>
    have hno : ¬ d.isDirectory p = true := by
      by_cases hup : last = "." ∨ last = ".." <;>
        simp [isDirectory, stat, hloc, hparent, hup, hs]
    refine ⟨fun h => absurd h hno, ?_⟩
    rintro ⟨hdir, hshort, hnext⟩
    have hok := (step_eq_ok_iff d parent _ last).mpr ⟨hdir, hshort, rfl, by simp [hnext]⟩
    exact absurd (hs.symm.trans hok) (by simp)
  | ok l =>
    obtain ⟨hdir, hshort, rfl, hsome⟩ := (step_eq_ok_iff d parent l last).mp hs
    -- Two dots, or one, name a directory that was passed already.
    by_cases hup : last = "." ∨ last = ".."
    · have hyes : d.isDirectory p = true := by
        simp [isDirectory, stat, hloc, hparent, hup, hs]
      exact ⟨fun _ => ⟨hdir, hshort, directory_enter d parent last hup hdir⟩, fun _ => hyes⟩
    cases he : d.entry? (enter parent last) with
    | none => exact absurd he hsome
    | some entry =>
      cases entry with
      | directory =>
        have hyes : d.isDirectory p = true := by
          simp [isDirectory, stat, hloc, hparent, hup, hs, he]
        exact ⟨fun _ => ⟨hdir, hshort, rfl⟩, fun _ => hyes⟩
      | file bytes =>
        have hno : ¬ d.isDirectory p = true := by
          by_cases hslash : p.text.toList.getLast? = some '/' <;>
            simp [isDirectory, stat, hloc, hparent, hup, hs, he, hslash]
        exact ⟨fun h => absurd h hno, by simp⟩

/-- What a directory is found to be by looking it up is what its way says. -/
theorem isDirectory_iff (d : Disk) (p : Path) : d.isDirectory p = true ↔ d.Open p := by
  by_cases hu : Usable p
  swap
  · obtain ⟨e, he⟩ := locate_of_not_usable p hu
    have hno : ¬ d.isDirectory p = true := by
      simp [isDirectory, stat, he d]
    exact ⟨fun h => absurd h hno, fun h => absurd h.usable hu⟩
  -- A path without names leads to where it starts.
  rcases trimmed_cases p.body with ⟨k, hbody⟩ | ⟨front, last, k, hbody, hlast⟩
  · have hloc := locate_of_empties d p hu k hbody
    have hyes : d.isDirectory p = true := by
      simp [isDirectory, stat, hloc]
    refine ⟨fun _ => ⟨hu, ?_⟩, fun _ => hyes⟩
    rw [hbody, walk_empties_iff]
    exact d.directory_origin p
  · have hwalk := walk_last_iff d (origin d.here p) front last k
    rw [← hbody] at hwalk
    have hloc := locate_of_last d p hu front last k hbody hlast
    constructor
    · intro h
      refine ⟨hu, hwalk.mpr ?_⟩
      cases hparent : front.foldlM d.step (origin d.here p) with
      | error e =>
        simp [isDirectory, stat, hloc, hparent] at h
      | ok parent =>
        obtain ⟨hdir, hshort, hnext⟩ :=
          (isDirectory_of_last d p hu front last k hbody hlast parent hparent).mp h
        obtain ⟨hf, rfl⟩ := (foldlM_step_iff d _ _ front).mp ⟨hparent, hdir⟩
        exact ⟨hf, hshort, hnext⟩
    · intro h
      obtain ⟨hf, hshort, hnext⟩ := hwalk.mp h.walk
      obtain ⟨hparent, hdir⟩ := (foldlM_step_iff d _ _ front).mpr ⟨hf, rfl⟩
      exact (isDirectory_of_last d p hu front last k hbody hlast _ hparent).mpr
        ⟨hdir, hshort, hnext⟩

/-- Where a directory is at the end of a way, directories are all along it. -/
theorem Open.directory {d : Disk} {p : Path} (h : d.Open p) (l : Location)
    (hl : OnWay d.here p l) : d.entry? l = some .directory := by
  obtain ⟨front, hfront, rfl⟩ := hl
  exact h.walk.directory front hfront

theorem Open.directory_place {d : Disk} {p : Path} (h : d.Open p) :
    d.entry? (place d.here p) = some .directory :=
  h.directory _ (onWay_place d.here p)

/-- A path stays open as long as the directories on its way stay. -/
theorem Open.of_directories {d d' : Disk} {p : Path} (h : d.Open p) (hhere : d'.here = d.here)
    (hdirs : ∀ l, d.entry? l = some .directory → d'.entry? l = some .directory) : d'.Open p := by
  refine ⟨h.usable, ⟨fun front hf => ?_, h.walk.short⟩⟩
  rw [hhere]
  exact hdirs _ (h.walk.directory front hf)

/-- Looking segments up never comes to another place than `reach` says. -/
theorem eq_reach_of_foldlM (d : Disk) (l l' : Location) (ss : List String)
    (h : ss.foldlM d.step l = .ok l') : l' = reach l ss := by
  induction ss generalizing l with
  | nil => exact (Except.ok.inj h).symm
  | cons s ss ih =>
    rw [List.foldlM_cons] at h
    cases hs : d.step l s with
    | error e => simp [hs] at h
    | ok l₁ =>
      obtain ⟨-, -, rfl, -⟩ := (step_eq_ok_iff d l l₁ s).mp hs
      rw [hs] at h
      exact ih (enter l s) h

theorem step_congr {d₁ d₂ : Disk} {l : Location} {s : String}
    (hl : d₁.entry? l = d₂.entry? l) (hs : d₁.entry? (enter l s) = d₂.entry? (enter l s)) :
    d₁.step l s = d₂.step l s := by
  by_cases hdir : d₁.entry? l = some .directory
  · rw [step_of_directory d₁ l s hdir, step_of_directory d₂ l s (hl ▸ hdir), hs]
  · unfold step
    rw [← hl]
    cases he : d₁.entry? l with
    | none => rfl
    | some e =>
      cases e with
      | directory => exact absurd he hdir
      | file bytes => rfl

/-- Looking up goes alike on disks with the same along the way. -/
theorem foldlM_step_congr {d₁ d₂ : Disk} (l : Location) (ss : List String)
    (h : ∀ front, front <+: ss → d₁.entry? (reach l front) = d₂.entry? (reach l front)) :
    ss.foldlM d₁.step l = ss.foldlM d₂.step l := by
  induction ss generalizing l with
  | nil => rfl
  | cons s ss ih =>
    have hl : d₁.entry? l = d₂.entry? l := h [] List.nil_prefix
    have hs : d₁.entry? (enter l s) = d₂.entry? (enter l s) :=
      h [s] ((List.prefix_cons_inj s).mpr List.nil_prefix)
    rw [List.foldlM_cons, List.foldlM_cons, step_congr hl hs]
    cases hstep : d₂.step l s with
    | error e => rfl
    | ok l₁ =>
      obtain ⟨-, -, rfl, -⟩ := (step_eq_ok_iff d₂ l l₁ s).mp hstep
      exact ih (enter l s) fun front hf => h (s :: front) ((List.prefix_cons_inj s).mpr hf)

/-- Two disks that have the same on the way of a path look it up to the same. -/
theorem locate_congr {d₁ d₂ : Disk} (p : Path) (hhere : d₁.here = d₂.here)
    (h : ∀ l, OnWay d₁.here p l → d₁.entry? l = d₂.entry? l) : d₁.locate p = d₂.locate p := by
  by_cases hu : Usable p
  swap
  · obtain ⟨e, he⟩ := locate_of_not_usable p hu
    rw [he d₁, he d₂]
  rcases trimmed_cases p.body with ⟨k, hbody⟩ | ⟨front, last, k, hbody, hlast⟩
  · rw [locate_of_empties d₁ p hu k hbody, locate_of_empties d₂ p hu k hbody, hhere]
  · -- Whatever is looked up lies on the way.
    have hwalk : ∀ f, f <+: front ++ [last] →
        d₁.entry? (reach (origin d₁.here p) f) = d₂.entry? (reach (origin d₁.here p) f) := by
      intro f hf
      refine h _ ⟨f, hf.trans ⟨List.replicate k "", ?_⟩, rfl⟩
      rw [hbody]
      simp
    have hfront := foldlM_step_congr (origin d₁.here p) front fun f hf =>
      hwalk f (hf.trans (List.prefix_append _ _))
    rw [locate_of_last d₁ p hu front last k hbody hlast,
      locate_of_last d₂ p hu front last k hbody hlast, ← hhere, hfront]
    cases hparent : front.foldlM d₂.step (origin d₁.here p) with
    | error e => rfl
    | ok parent =>
      have hreach := eq_reach_of_foldlM d₂ _ parent front hparent
      have hp : d₁.entry? parent = d₂.entry? parent :=
        hreach ▸ hwalk front (List.prefix_append _ _)
      have hl : d₁.entry? (enter parent last) = d₂.entry? (enter parent last) := by
        have hlast := hwalk (front ++ [last]) List.prefix_rfl
        rw [reach_append, ← hreach] at hlast
        exact hlast
      simp only [step_congr hp hl, ok_bind]

end CrudLayer.Disk
