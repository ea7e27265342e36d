import CrudLayer.Pattern.Members
import CrudLayer.Text.Alphanumeric

namespace CrudLayer.Pattern

open Text

structure Sequence where
  /-- The heights of the parts, the last first. Settings have none and cannot be repeated. -/
  parts : List (Option Nat) := []
  /-- The greatest height of the alternatives before, if there are any. -/
  before : Option Nat := none
  deriving DecidableEq, Repr

namespace Sequence

def add (q : Sequence) (part : Option Nat) : Sequence := { q with parts := part :: q.parts }

/-- The height of the last alternative. More than one part are a level of their own. -/
def last (q : Sequence) : Nat :=
  let top := q.parts.foldl (fun h part => max h (part.getD 0)) 0
  if q.parts.length ≤ 1 then top else top + 1

/-- The height of it all. More than one alternative are a level of their own. -/
def height (q : Sequence) : Nat :=
  match q.before with
  | some h => max h q.last + 1
  | none => q.last

def alternative (q : Sequence) : Sequence := { before := some (max (q.before.getD 0) q.last) }

def repeated? (q : Sequence) : Option Sequence :=
  match q.parts with
  | some h :: before => some { q with parts := some (h + 1) :: before }
  | _ => none

end Sequence

inductive Opening
  /-- Settings for what comes after them. -/
  | settings (mode : Mode)
  /-- A group, and the names of groups up to here. -/
  | group (mode : Mode) (names : List (List Char))

def isGroupName (s : List Char) : Bool :=
  match s with
  | [] => false
  | c :: r =>
    (c == '_' || isAlphabetic c) &&
      r.all fun c => c == '_' || c == '.' || c == '[' || c == ']' || isAlphanumeric c

def groupName? (m : Mode) (names : List (List Char)) : Reader Opening :=
  (Reader.upTo (· == '>')).filterMap fun (name, _) =>
    if isGroupName name && !names.contains name then some (.group m (name :: names)) else none

def settings? (m : Mode) (names : List (List Char)) : Reader Opening :=
  (Reader.upTo fun c => c == ':' || c == ')').filterMap fun (settings, stop) =>
    if Mode.isSettings settings then
      if stop = ':' then some (.group (m.adjusted settings) names)
      else if settings.isEmpty then none
      else some (.settings (m.adjusted settings))
    else none

def opening? (m : Mode) (names : List (List Char)) : Reader Opening
  | p :: '?' :: 'P' :: '<' :: r =>
    (groupName? m names r).map fun t => (((t.after '<').after 'P').after '?').after p
  | p :: '?' :: '<' :: r => (groupName? m names r).map fun t => ((t.after '<').after '?').after p
  | p :: '?' :: r => (settings? m names r).map fun t => (t.after '?').after p
  | p :: _ => some (.one p (.group m names))
  | [] => none

def skipLazy : List Char → List Char
  | '?' :: r => r
  | s => s

theorem length_skipLazy_le (s : List Char) : (skipLazy s).length ≤ s.length := by
  unfold skipLazy
  split
  · exact Nat.le_succ _
  · exact Nat.le_refl _

/-- The height of a pattern, from a part on: `q` is what was read of its group, and `outer` are the
groups that this one is in, the innermost first, each with its mode. -/
def height? (m : Mode) (names : List (List Char)) (q : Sequence) (outer : List (Mode × Sequence))
    (s : List Char) : Option Nat :=
  match s with
  | [] => if outer.isEmpty then some q.height else none
  | c :: r =>
    if c = '(' then
      match opening? m names (c :: m.skip r) with
      | some ⟨.settings m', t, _⟩ => height? m' names (q.add none) outer (m'.skip t)
      | some ⟨.group m' names', t, _⟩ => height? m' names' {} ((m, q) :: outer) (m'.skip t)
      | none => none
    else if c = ')' then
      match outer with
      | (m', around) :: outer =>
        height? m' names (around.add (some (q.height + 1))) outer (m'.skip r)
      | [] => none
    else if c = '|' then height? m names q.alternative outer (m.skip r)
    else if c = '[' then
      match set? m r with
      | some ⟨h, t, _⟩ => height? m names (q.add (some h)) outer (m.skip t)
      | none => none
    else if c = '*' ∨ c = '+' ∨ c = '?' then
      match q.repeated? with
      | some q => height? m names q outer (m.skip (skipLazy r))
      | none => none
    else if c = '\x7b' then none
    else
      match part? m (c :: r) with
      | some ⟨part, t, _⟩ =>
        if part.isReadable m then height? m names (q.add (some 0)) outer (m.skip t) else none
      | none => none
termination_by s.length
decreasing_by
  · rename_i h
    exact Nat.lt_of_lt_of_le (m'.length_skip_lt h) (Nat.succ_le_succ (m.length_skip_le r))
  · rename_i h
    exact Nat.lt_of_lt_of_le (m'.length_skip_lt h) (Nat.succ_le_succ (m.length_skip_le r))
  · exact m'.length_skip_lt (length_lt_length_cons c r)
  · exact m.length_skip_lt (length_lt_length_cons c r)
  · rename_i h
    exact m.length_skip_lt (Nat.lt_succ_of_lt h)
  · exact m.length_skip_lt (Nat.lt_succ_of_le (length_skipLazy_le r))
  · rename_i h _
    exact m.length_skip_lt h

def isPattern (s : List Char) : Bool := (height? {} [] {} [] s).any (· ≤ 250)

end CrudLayer.Pattern
