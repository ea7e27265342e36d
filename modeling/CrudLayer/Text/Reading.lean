/-!
Reading from the front of a list of characters. A successful reading leaves a rest that is shorter
than what there was, so that reading on comes to an end.
-/
namespace CrudLayer.Text

/-- What was read from the front of `s`, and what is left. -/
structure Reading (α : Type) (s : List Char) where
  value : α
  rest : List Char
  shorter : rest.length < s.length

theorem shorter_trans {r s t : List Char} (h : t.length < r.length) (h' : r.length < s.length) :
    t.length < s.length :=
  Nat.lt_trans h h'

theorem shorter_of_le {r s t : List Char} (h : t.length < r.length) (h' : r.length ≤ s.length) :
    t.length < s.length :=
  Nat.lt_of_lt_of_le h h'

theorem shorter_of_le_of_lt {r s t : List Char} (h : t.length ≤ r.length)
    (h' : r.length < s.length) : t.length < s.length :=
  Nat.lt_of_le_of_lt h h'

theorem shorter_cons {r t : List Char} (c : Char) (h : t.length < r.length) :
    t.length < (c :: r).length :=
  Nat.lt_succ_of_lt h

theorem length_lt_length_cons (c : Char) (r : List Char) : r.length < (c :: r).length :=
  Nat.lt_succ_self r.length

theorem length_dropWhile_le (p : Char → Bool) (s : List Char) :
    (s.dropWhile p).length ≤ s.length :=
  (List.dropWhile_sublist p).length_le

theorem length_dropWhile_lt (p : Char → Bool) (c : Char) (r : List Char) :
    (r.dropWhile p).length < (c :: r).length :=
  Nat.lt_succ_of_le (length_dropWhile_le p r)

theorem length_drop_lt (n : Nat) (c : Char) (r : List Char) :
    (r.drop n).length < (c :: r).length := by
  simp only [List.length_drop, List.length_cons]
  omega

theorem length_drop_lt_of_isPrefixOf {c : Char} {more s : List Char}
    (h : (c :: more).isPrefixOf s = true) : (s.drop (more.length + 1)).length < s.length := by
  have hle := (List.isPrefixOf_iff_prefix.1 h).length_le
  simp only [List.length_drop, List.length_cons] at *
  omega

namespace Reading

variable {α β : Type} {r s : List Char}

def map (f : α → β) : Reading α s → Reading β s
  | ⟨a, t, h⟩ => ⟨f a, t, h⟩

/-- The reading as one that starts before what was read from. -/
def beyond (h : r.length < s.length) : Reading α r → Reading α s
  | ⟨a, t, h'⟩ => ⟨a, t, shorter_trans h' h⟩

/-- The reading as one that starts where there may have been more to read from. -/
def within (h : r.length ≤ s.length) : Reading α r → Reading α s
  | ⟨a, t, h'⟩ => ⟨a, t, shorter_of_le h' h⟩

/-- The reading as one that starts a character before what was read from. -/
def after (c : Char) : Reading α r → Reading α (c :: r)
  | ⟨a, t, h⟩ => ⟨a, t, shorter_cons c h⟩

def one (c : Char) (a : α) : Reading α (c :: r) := ⟨a, r, length_lt_length_cons c r⟩

def span (c : Char) (p : Char → Bool) : Reading (List Char) (c :: r) :=
  ⟨c :: r.takeWhile p, r.dropWhile p, length_dropWhile_lt p c r⟩

def counted (c : Char) (n : Nat) (a : α) : Reading α (c :: r) :=
  ⟨a, r.drop n, length_drop_lt n c r⟩

end Reading

abbrev Reader (α : Type) := (s : List Char) → Option (Reading α s)

namespace Reader

variable {α β : Type}

def map (p : Reader α) (f : α → β) : Reader β := fun s => (p s).map (·.map f)

def filterMap (p : Reader α) (f : α → Option β) : Reader β := fun s =>
  match p s with
  | some ⟨a, t, h⟩ => (f a).map fun b => ⟨b, t, h⟩
  | none => none

def andThen (p : Reader α) (q : α → Reader β) : Reader β := fun s =>
  match p s with
  | some ⟨a, t, h⟩ => (q a t).map (·.beyond h)
  | none => none

def behind (p : Reader α) (skip : List Char → List Char)
    (h : ∀ s, (skip s).length ≤ s.length) : Reader α := fun s =>
  (p (skip s)).map (·.within (h s))

def skipping (skipped : Char → Bool) (p : Reader α) : Reader α :=
  p.behind (·.dropWhile skipped) (length_dropWhile_le skipped)

def word (c : Char) (more : List Char) : Reader Unit := fun s =>
  if h : (c :: more).isPrefixOf s then
    some ⟨(), s.drop (more.length + 1), length_drop_lt_of_isPrefixOf h⟩
  else none

/-- Reads one of two things, the second only if the first is not there. -/
def orElse (p q : Reader α) : Reader α := fun s =>
  match p s with
  | some x => some x
  | none => q s

/-- Reads the characters before the first one of a class, and that one too. -/
def upTo (stops : Char → Bool) : Reader (List Char × Char)
  | [] => none
  | c :: r =>
    if stops c then some (.one c ([], c))
    else (upTo stops r).map fun t => (t.map fun (before, stop) => (c :: before, stop)).after c

end Reader

def digitValue? (base : Nat) (c : Char) : Option Nat :=
  if c.isDigit then some (c.toNat - 0x30)
  else if base = 16 ∧ 'a' ≤ c ∧ c ≤ 'f' then some (c.toNat - 0x57)
  else if base = 16 ∧ 'A' ≤ c ∧ c ≤ 'F' then some (c.toNat - 0x37)
  else none

/-- The number that digits spell. No digits spell zero. -/
def number? (base : Nat) (digits : List Char) : Option Nat :=
  (digits.mapM (digitValue? base)).map (·.foldl (fun n d => n * base + d) 0)

def numberWidth? (c : Char) : Option Nat := [('x', 2), ('u', 4), ('U', 8)].lookup c

def numbered? (n : Nat) : Option Char := if n.isValidChar then some (Char.ofNat n) else none

end CrudLayer.Text
