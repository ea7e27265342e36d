import CrudLayer.Pattern.Part

/-!
Sets of characters in patterns, between brackets. A set lists characters, ranges and classes of
characters and further sets, and operators may stand between lists. All that is kept of it is how
high it is: how many levels of lists and sets there are in it.
-/
namespace CrudLayer.Pattern

open Text

structure Members where
  /-- The height of what stands before the last operator, if there is one. -/
  before : Option Nat := none
  /-- How many members come after it. -/
  count : Nat := 0
  /-- The greatest height of these. -/
  top : Nat := 0
  deriving DecidableEq, Repr

namespace Members

def add (s : Members) (height : Nat) : Members :=
  { s with count := s.count + 1, top := max s.top height }

/-- The height of it all. A list of more than one member is a level of its own, and each operator
is. -/
def height (s : Members) : Nat :=
  let last := if s.count ≤ 1 then s.top else s.top + 1
  match s.before with
  | some h => max h last + 1
  | none => last

def operator (s : Members) : Members := { before := some s.height }

end Members

def classNames : List String := [
  "alnum", "alpha", "ascii", "blank", "cntrl", "digit", "graph", "lower", "print", "punct", "space",
  "upper", "word", "xdigit"]

/-- The name of a class. The flag says whether a sign before it asks for the other characters. -/
def classNamed? : List Char → Option Bool
  | '^' :: name => if classNames.contains (.ofList name) then some true else none
  | name => if classNames.contains (.ofList name) then some false else none

def class? : Reader Bool := (Reader.word ':' []).andThen fun _ =>
  ((Reader.upTo (· == ':')).filterMap fun (name, _) => classNamed? name).andThen fun others =>
    (Reader.word ']' []).map fun _ => others

def isReadableClass (m : Mode) (others : Bool) : Bool := if m.whole then !m.caseless else !others

def member? (m : Mode) : Reader Part
  | [] => none
  | c :: r =>
    if c = '\\' then (escape? m r).map (·.after c) else some (.one c (.character c false))

/-- A range of characters goes on here: there is a dash, and after it neither another dash nor the
end of the set. -/
def rangeGoesOn (m : Mode) (s : List Char) : Bool :=
  match m.skip s with
  | '-' :: r =>
    match (m.skip r).head? with
    | some c => c != '-' && c != ']'
    | none => true
  | _ => false

def rangeEnd? (m : Mode) : Reader Part :=
  ((Reader.word '-' []).behind m.skip m.length_skip_le).andThen fun _ =>
    (member? m).behind m.skip m.length_skip_le

def isRange (m : Mode) : Part → Part → Bool
  | .character a x, .character b y =>
    a ≤ b && (Part.character a x).isMember m && (Part.character b y).isMember m
  | _, _ => false

def range? (m : Mode) : Reader Unit := fun s =>
  match member? m s with
  | some ⟨first, r, h⟩ =>
    if rangeGoesOn m r then
      match rangeEnd? m r with
      | some last =>
        if isRange m first last.value then some ((last.map fun _ => ()).beyond h) else none
      | none => none
    else if first.isMember m then some ⟨(), r, h⟩
    else none
  | none => none

def skipInversion (m : Mode) (s : List Char) : List Char :=
  match m.skip s with
  | '^' :: r => m.skip r
  | t => t

def isInverted (m : Mode) (s : List Char) : Bool := (m.skip s).head? == some '^'

theorem length_skipInversion_le (m : Mode) (s : List Char) :
    (skipInversion m s).length ≤ s.length := by
  have h := m.length_skip_le s
  unfold skipInversion
  split
  · rename_i r hr
    rw [hr] at h
    exact Nat.le_trans (m.length_skip_le r) (Nat.le_of_succ_le h)
  · exact h

def isOperatorSign (c : Char) : Bool := c == '&' || c == '-' || c == '~'

/-- The rest of a set, and of those that it is in, the innermost of them first. At its start, where
it is fresh, dashes are members and so is a bracket that would end it. -/
def members? (m : Mode) (fresh : Bool) (set : Members) (outer : List Members) (s : List Char) :
    Option (Reading Nat s) :=
  match s with
  | [] => none
  | c :: r =>
    if fresh && (c == '-' || (c == ']' && set.count == 0)) then
      if (Part.character c false).isMember m then
        (members? m (c == '-') (set.add 0) outer (m.skip r)).map fun t =>
          (t.within (m.length_skip_le r)).after c
      else none
    else if c = ']' then
      match outer with
      | [] => some (.one c (set.height + 1))
      | around :: outer =>
        (members? m false (around.add (set.height + 1)) outer (m.skip r)).map fun t =>
          (t.within (m.length_skip_le r)).after c
    else if isOperatorSign c && r.head? == some c then
      (members? m false set.operator outer (m.skip (r.drop 1))).map fun t =>
        t.beyond (m.length_skip_lt (length_drop_lt 1 c r))
    else if c = '[' then
      match class? r with
      | some ⟨others, t, h⟩ =>
        if isReadableClass m others then
          (members? m false (set.add 0) outer (m.skip t)).map fun u =>
            (u.beyond (m.length_skip_lt h)).after c
        else none
      | none =>
        if isInverted m r && !m.whole then none
        else
          (members? m true {} (set :: outer) (skipInversion m r)).map fun t =>
            (t.within (length_skipInversion_le m r)).after c
    else
      match range? m (c :: r) with
      | some ⟨_, t, h⟩ =>
        (members? m false (set.add 0) outer (m.skip t)).map (·.beyond (m.length_skip_lt h))
      | none => none
termination_by s.length
decreasing_by
  · exact m.length_skip_lt (length_lt_length_cons c r)
  · exact m.length_skip_lt (length_lt_length_cons c r)
  · exact m.length_skip_lt (length_drop_lt 1 c r)
  · exact m.length_skip_lt (Nat.lt_succ_of_lt h)
  · exact Nat.lt_succ_of_le (length_skipInversion_le m r)
  · exact m.length_skip_lt h

def set? (m : Mode) : Reader Nat := fun s =>
  if isInverted m s && !m.whole then none
  else (members? m true {} [] (skipInversion m s)).map (·.within (length_skipInversion_le m s))

end CrudLayer.Pattern
