import CrudLayer.FileError
import CrudLayer.Path

/-!
Disks: trees of directories and files, with a directory that relative paths start from. An operation
looks its path up name by name and fails where a system would, for the same reason.
-/
namespace CrudLayer

/-- A place in a tree: the names that lead there, the last first. The root is the place of no
names. -/
abbrev Location := List String

inductive Entry
  | file (bytes : ByteArray)
  | directory

theorem Entry.file_inj {a b : ByteArray} : Entry.file a = .file b ↔ a.data = b.data :=
  ⟨fun h => congrArg ByteArray.data (Entry.file.inj h),
    fun h => congrArg Entry.file (ByteArray.ext h)⟩

instance : DecidableEq Entry
  | .file _, .file _ => decidable_of_iff _ Entry.file_inj.symm
  | .directory, .directory => .isTrue rfl
  | .file _, .directory => .isFalse nofun
  | .directory, .file _ => .isFalse nofun

namespace Disk

def entryIn (entries : List (Location × Entry)) : Location → Option Entry
  | [] => some .directory
  | n :: l => entries.lookup (n :: l)

end Disk

/-- A tree of directories and files. -/
structure Disk where
  /-- Every place but the root where there is something. -/
  entries : List (Location × Entry)
  /-- The place that relative paths start from. -/
  here : Location
  /-- What is somewhere is in a directory. -/
  in_directory : ∀ name l, Disk.entryIn entries (name :: l) ≠ none →
    Disk.entryIn entries l = some .directory
  /-- Relative paths start from a directory. -/
  here_directory : Disk.entryIn entries here = some .directory

namespace Disk

def entry? (d : Disk) (l : Location) : Option Entry := entryIn d.entries l

/-- A place with a name that has more than 255 bytes cannot be. -/
def isTooLong (name : String) : Bool := name.utf8ByteSize > 255

/-- Where a segment of a path leads from a place. -/
def step (d : Disk) (l : Location) (segment : String) : Except FileError Location :=
  match d.entry? l with
  | some .directory =>
    if Path.isIdle segment then .ok l
    else if segment = ".." then .ok l.tail
    else if isTooLong segment then .error .nameTooLong
    else if (d.entry? (segment :: l)).isSome then .ok (segment :: l)
    else .error .missing
  | _ => .error .notDirectory

inductive Place
  /-- The path ends in no name, and leads here. -/
  | directory (l : Location)
  /-- The path ends in this name, which may be taken or not. The flag says that a slash follows
  the name, so that it should be that of a directory. -/
  | named (parent : Location) (name : String) (slash : Bool)
  deriving DecidableEq

/-- Where a path leads to, all its segments but the last name being looked up. -/
def locate (d : Disk) (p : Path) : Except FileError Place :=
  if p.text.toList.any (·.toNat = 0) then .error .zeroInName
  else if p.isEmpty then .error .missing
  else if p.text.utf8ByteSize ≥ 4096 then .error .nameTooLong
  else
    -- A dot at the very start changes nothing, so only the root is a start of its own.
    let start := if p.anchor = .root then [] else d.here
    let slash := p.text.toList.getLast? = some '/'
    -- Slashes at the end say only that the last name is that of a directory.
    match p.body.reverse.dropWhile (· = "") with
    | [] => .ok (.directory start)
    | last :: before => do
      let parent ← before.reverse.foldlM d.step start
      if last = "." ∨ last = ".." then return .directory (← d.step parent last)
      else return .named parent last slash

def stat (d : Disk) (p : Path) : Except FileError Entry := do
  match ← d.locate p with
  | .directory _ => return .directory
  | .named parent name slash =>
    let l ← d.step parent name
    match d.entry? l with
    | some (.file bytes) => if slash then throw .notDirectory else return .file bytes
    | _ => return .directory

def isPresent (d : Disk) (p : Path) : Bool :=
  match d.stat p with
  | .ok _ => true
  | .error _ => false

def isDirectory (d : Disk) (p : Path) : Bool :=
  match d.stat p with
  | .ok .directory => true
  | _ => false

def read (d : Disk) (p : Path) : Except FileError ByteArray := do
  match ← d.stat p with
  | .file bytes => return bytes
  | .directory => throw .isDirectory

theorem entryIn_cons (entries : List (Location × Entry)) (k : Location) (e : Entry) (l : Location) :
    entryIn ((k, e) :: entries) l =
      if l = [] then some .directory else if l = k then some e else entryIn entries l := by
  cases l with
  | nil => rfl
  | cons n l =>
    by_cases h : n :: l = k
    · subst h
      simp [entryIn]
    · have hb : (n :: l == k) = false := by simpa using h
      simp [entryIn, List.lookup_cons, hb, h]

theorem lookup_filter (entries : List (Location × Entry)) (q : Location → Bool) (l : Location) :
    (entries.filter (q ·.1)).lookup l = if q l then entries.lookup l else none := by
  induction entries with
  | nil => simp
  | cons a rest ih =>
    obtain ⟨k, e⟩ := a
    by_cases hl : l = k
    · subst hl
      by_cases hq : q l
      · rw [List.filter_cons_of_pos (by simpa using hq)]
        simp [hq]
      · rw [List.filter_cons_of_neg (by simpa using hq), ih]
        simp [hq]
    · have hb : (l == k) = false := by simpa using hl
      by_cases hq : q k
      · rw [List.filter_cons_of_pos (by simpa using hq), List.lookup_cons, List.lookup_cons, ih]
        simp [hb]
      · rw [List.filter_cons_of_neg (by simpa using hq), ih, List.lookup_cons]
        simp [hb]

theorem entryIn_filter (entries : List (Location × Entry)) (q : Location → Bool) (l : Location) :
    entryIn (entries.filter (q ·.1)) l =
      if l = [] then some .directory else if q l then entryIn entries l else none := by
  cases l with
  | nil => rfl
  | cons n l => simp [entryIn, lookup_filter]

/-- No place is directly in itself. -/
theorem cons_ne (n : String) (l : Location) : n :: l ≠ l := fun h => by
  simpa using congrArg List.length h

/-- The disk with an entry at a name in a directory, where there was none or a file. -/
def put (d : Disk) (parent : Location) (name : String) (e : Entry)
    (hp : d.entry? parent = some .directory) (hn : d.entry? (name :: parent) ≠ some .directory) :
    Disk where
  entries := (name :: parent, e) :: d.entries.filter (·.1 != name :: parent)
  here := d.here
  in_directory := by
    intro n l h
    rw [entryIn_cons, entryIn_filter _ (· != name :: parent)] at h ⊢
    by_cases hnil : l = []
    · simp [hnil]
    · -- Nothing was below the new place: it was no directory before.
      have hl : l ≠ name :: parent := by
        rintro rfl
        simp only [reduceCtorEq, if_false, cons_ne, bne_iff_ne, ne_eq, not_false_eq_true,
          if_true] at h
        exact hn (d.in_directory _ _ h)
      simp only [hnil, if_false, hl, bne_iff_ne, ne_eq, not_false_eq_true, if_true]
      by_cases hk : n :: l = name :: parent
      · exact (List.cons.inj hk).2 ▸ hp
      · simp only [reduceCtorEq, if_false, hk, bne_iff_ne, ne_eq, not_false_eq_true, if_true] at h
        exact d.in_directory n l h
  here_directory := by
    rw [entryIn_cons, entryIn_filter _ (· != name :: parent)]
    have hd := d.here_directory
    have hne : d.here ≠ name :: parent := fun h => hn (h ▸ hd)
    by_cases hnil : d.here = []
    · simp [hnil]
    · simpa [hnil, hne] using hd

/-- The disk without what is at and below a place, where relative paths do not start. -/
def drop (d : Disk) (l : Location) (hl : ¬ l <:+ d.here) : Disk where
  entries := d.entries.filter (!l.isSuffixOf ·.1)
  here := d.here
  in_directory := by
    intro n l' h
    rw [entryIn_filter _ (!l.isSuffixOf ·)] at h ⊢
    by_cases hk : l.isSuffixOf (n :: l')
    · simp [hk] at h
    · simp only [reduceCtorEq, if_false, hk, Bool.not_false, if_true] at h
      -- A place that stays is not below the dropped one, and so neither is the directory it is in.
      have hl' : l.isSuffixOf l' = false := by
        cases hs : l.isSuffixOf l' with
        | false => rfl
        | true =>
          refine absurd ?_ hk
          rw [List.isSuffixOf_iff_suffix] at hs ⊢
          exact hs.trans (List.suffix_cons n l')
      by_cases hnil : l' = []
      · simp [hnil]
      · simpa [hnil, hl'] using d.in_directory n l' h
  here_directory := by
    rw [entryIn_filter _ (!l.isSuffixOf ·)]
    have hd := d.here_directory
    have hs : l.isSuffixOf d.here = false := by
      cases hs : l.isSuffixOf d.here with
      | false => rfl
      | true => exact absurd (List.isSuffixOf_iff_suffix.1 hs) hl
    by_cases hnil : d.here = []
    · simp [hnil]
    · simpa [hnil, hs] using hd

/-- No directory is in a file, so relative paths do not start below one. -/
theorem not_suffix_here (d : Disk) (l : Location) (hl : d.entry? l ≠ some .directory) :
    ¬ l <:+ d.here := by
  rintro ⟨t, ht⟩
  -- The directory that relative paths start from makes all places on the way to it directories.
  have key : ∀ t : Location,
      d.entry? (t ++ l) = some .directory → d.entry? l = some .directory := by
    intro t
    induction t with
    | nil => exact id
    | cons n t ih =>
      intro h
      refine ih (d.in_directory n (t ++ l) fun hnone => ?_)
      have h' : entryIn d.entries (n :: (t ++ l)) = some .directory := h
      rw [hnone] at h'
      cases h'
  exact hl (key t (ht ▸ d.here_directory))

/-- Makes a directory. Its name must be free. -/
def makeDirectory (d : Disk) (p : Path) : Except FileError Disk := do
  match ← d.locate p with
  | .directory _ => throw .present
  | .named parent name _ =>
    if hp : d.entry? parent = some .directory then
      if isTooLong name then throw .nameTooLong
      else if hn : d.entry? (name :: parent) = none then
        return d.put parent name .directory hp (by simp [hn])
      else throw .present
    else throw .notDirectory

def write (d : Disk) (p : Path) (bytes : ByteArray) : Except FileError Disk := do
  match ← d.locate p with
  | .directory _ => throw .isDirectory
  | .named parent name slash =>
    if hp : d.entry? parent = some .directory then
      if slash then throw .isDirectory
      else if isTooLong name then throw .nameTooLong
      else if hn : d.entry? (name :: parent) = some .directory then throw .isDirectory
      else return d.put parent name (.file bytes) hp hn
    else throw .notDirectory

def remove (d : Disk) (p : Path) : Except FileError Disk := do
  match ← d.locate p with
  | .directory _ => throw .isDirectory
  | .named parent name slash =>
    let l ← d.step parent name
    if hl : d.entry? l = some .directory then throw .isDirectory
    else if slash then throw .notDirectory
    else return d.drop l (d.not_suffix_here l hl)

/-- Moves a file. A file at the new place is replaced. -/
def move (d : Disk) (old new : Path) : Except FileError Disk := do
  let source ← d.locate old
  let target ← d.locate new
  match source, target with
  | .named oldParent oldName oldSlash, .named newParent newName newSlash =>
    let l ← d.step oldParent oldName
    match d.entry? l with
    | some (.file bytes) =>
      if hp : d.entry? newParent = some .directory then
        if isTooLong newName then throw .nameTooLong
        else if oldSlash || newSlash then throw .notDirectory
        else if hn : d.entry? (newName :: newParent) = some .directory then throw .isDirectory
        else
          -- A file that is moved to where it is already stays there.
          let moved := d.put newParent newName (.file bytes) hp hn
          if l = newName :: newParent then return moved
          else if hl : moved.entry? l = some .directory then throw .isDirectory
          else return moved.drop l (moved.not_suffix_here l hl)
      else throw .notDirectory
    | _ => throw .isDirectory
  | _, _ => throw .busy

/-- A disk with nothing in it but the directory that relative paths start from, and one that it
is in. -/
def fresh : Disk where
  entries := [(["work", "base"], .directory), (["base"], .directory)]
  here := ["work", "base"]
  in_directory := by
    intro n l h
    simp only [entryIn, List.lookup_cons, List.lookup_nil] at h
    split at h
    · rename_i heq
      simp only [beq_iff_eq, List.cons.injEq] at heq
      obtain ⟨-, rfl⟩ := heq
      rfl
    · split at h
      · rename_i heq
        simp only [beq_iff_eq, List.cons.injEq] at heq
        obtain ⟨-, rfl⟩ := heq
        rfl
      · exact absurd rfl h
  here_directory := rfl

end Disk
end CrudLayer
