import CrudLayer.Pattern.Mode

namespace CrudLayer.Pattern

open Text

inductive Part
  /-- A character. The flag says that it is given as a byte. -/
  | character (c : Char) (byte : Bool)
  /-- Any character. -/
  | any
  /-- A digit, letter or white space, or any other character but those. -/
  | category (others : Bool)
  /-- A place between characters. The flag says that it is told by the words around it. -/
  | place (byWords : Bool)
  deriving DecidableEq, Repr

namespace Part

/-- The part can stand by itself. What is matched by bytes has to match characters all the same. -/
def isReadable (m : Mode) : Part → Bool
  | character c byte => if m.whole then !m.caseless else !byte || c.toNat < 0x80
  | any => m.whole
  | category others => !m.whole && !others
  | place byWords => !(m.whole && byWords)

def isMember (m : Mode) : Part → Bool
  | character c _ => if m.whole then !m.caseless else c.toNat < 0x80
  | category others => !m.whole && !others
  | any => false
  | place _ => false

end Part

def controls : List (Char × Char) := [
  ('a', '\x07'), ('f', '\x0c'), ('t', '\t'), ('n', '\n'), ('r', '\r'), ('v', '\x0b')]

def escaped? (c : Char) : Option Part :=
  if ['d', 's', 'w'].contains c then some (.category false)
  else if ['D', 'S', 'W'].contains c then some (.category true)
  else if ['A', 'z'].contains c then some (.place false)
  else if ['b', 'B', '<', '>'].contains c then some (.place true)
  else
    match controls.lookup c with
    | some d => some (.character d false)
    | none => if c.toNat < 0x80 && !c.isAlphanum then some (.character c false) else none

def digit? (m : Mode) : Reader Char
  | [] => none
  | c :: r =>
    if (digitValue? 16 c).isSome then
      some ⟨c, m.skip r, m.length_skip_lt (length_lt_length_cons c r)⟩
    else none

def digits? (m : Mode) (more : Nat) : Reader (List Char) :=
  match more with
  | 0 => (digit? m).map fun d => [d]
  | more + 1 => (digit? m).andThen fun d => (digits? m more).map (d :: ·)

def byNumber? (m : Mode) (width : Nat) : Reader Char :=
  ((digits? m (width - 1)).filterMap fun ds => (number? 16 ds).bind numbered?).behind m.skip
    m.length_skip_le

def escape? (m : Mode) : Reader Part
  | [] => none
  | c :: r =>
    match numberWidth? c with
    | some width => (byNumber? m width r).map fun d => (d.map (.character · (c == 'x'))).after c
    | none => (escaped? c).map fun part => .one c part

def part? (m : Mode) : Reader Part
  | [] => none
  | c :: r =>
    if c = '\\' then (escape? m r).map (·.after c)
    else if c = '.' then some (.one c .any)
    else if c = '^' ∨ c = '$' then some (.one c (.place false))
    else some (.one c (.character c false))

end CrudLayer.Pattern
