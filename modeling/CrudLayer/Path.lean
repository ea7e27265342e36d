/-!
Paths. A path is the text it was given as, and it stays that text: `out//x` and `out/x` are two
paths, which name the same components. Where a path leads is decided by a disk, not here.
-/
namespace CrudLayer

/-- A path, as it was given. -/
structure Path where
  text : String
  deriving DecidableEq, Repr

namespace Path

inductive Component
  /-- Start from the root. -/
  | root
  /-- Stay, at the very start of a path. -/
  | current
  /-- Go up. -/
  | parent
  /-- Go down to this name. -/
  | name (text : String)
  deriving DecidableEq, Repr

inductive Anchor
  | root
  | current
  | relative
  deriving DecidableEq, Repr

def isEmpty (p : Path) : Bool := p.text.isEmpty

def segments (p : Path) : List String := (p.text.toList.splitOn '/').map String.ofList

def ofSegments (segments : List String) : Path := ⟨"/".intercalate segments⟩

/-- Where a path with these segments starts, and the segments after that. -/
def anchored : List String → Anchor × List String
  | [] => (.relative, [])
  | first :: rest =>
    if first = "" ∧ rest ≠ [] then (.root, rest)
    else if first = "." then (.current, rest)
    else (.relative, first :: rest)

def anchor (p : Path) : Anchor := (anchored p.segments).1

def body (p : Path) : List String := (anchored p.segments).2

def isIdle (segment : String) : Bool := segment = "" || segment = "."

def componentOf (segment : String) : Component :=
  if segment = ".." then .parent else .name segment

def Anchor.components : Anchor → List Component
  | .root => [.root]
  | .current => [.current]
  | .relative => []

/-- The components, in order. Two paths with the same components name the same place. -/
def components (p : Path) : List Component :=
  p.anchor.components ++ (p.body.filter (!isIdle ·)).map componentOf

def sameComponents (p q : Path) : Bool := p.components == q.components

def isAbsolute (p : Path) : Bool := p.text.toList.head? == some '/'

/-- The path that `q` names as seen from `p`. -/
def join (p q : Path) : Path :=
  if q.isAbsolute then q
  else if p.isEmpty || p.text.toList.getLast? == some '/' then ⟨p.text ++ q.text⟩
  else ⟨p.text ++ "/" ++ q.text⟩

def build (a : Anchor) (reversed : List String) : Path :=
  match a, reversed with
  | .root, [] => ⟨"/"⟩
  | .root, s :: rest => ofSegments ("" :: (s :: rest).reverse)
  | .current, reversed => ofSegments ("." :: reversed.reverse)
  | .relative, reversed => ofSegments reversed.reverse

/-- The paths above one with this start and these segments, which are given last first. The nearest
comes first; a path without a start ends at the empty path, and so does one that starts with a
dot. -/
def above (a : Anchor) : List String → List Path
  | [] => if a = .current then [⟨""⟩] else []
  | s :: rest =>
    if isIdle s then above a rest else build a (rest.dropWhile isIdle) :: above a rest

def parents (p : Path) : List Path := above p.anchor p.body.reverse

def parent? (p : Path) : Option Path := p.parents.head?

def fileName? (p : Path) : Option String :=
  match p.body.reverse.dropWhile isIdle with
  | s :: _ => if s = ".." then none else some s
  | [] => none

/-- The path with another name in the place of the one it ends in, or with a name added where it
ends in none. -/
def withFileName (p : Path) (name : String) : Path :=
  match p.fileName?, p.parent? with
  | some _, some q => q.join ⟨name⟩
  | _, _ => p.join ⟨name⟩

def after? (base p : Path) : Option (List Component) :=
  if base.components.isPrefixOf p.components then
    some (p.components.drop base.components.length)
  else none

/-- Every component after those of `base` goes down to a name, so the path leads to a place below
the one that `base` leads to. -/
def isBelow (base p : Path) : Bool :=
  match after? base p with
  | some rest => rest.all fun
    | .name _ => true
    | _ => false
  | none => false

/-- The path that leads down these names, one after the other, from the empty path. A name that is
an absolute path starts anew. -/
def ofNames (names : List String) : Path := names.foldl (fun p name => p.join ⟨name⟩) ⟨""⟩

end Path
end CrudLayer
