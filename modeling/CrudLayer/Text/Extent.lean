namespace CrudLayer.Text

def byteCount (s : List Char) : Nat := s.foldl (fun n c => n + c.utf8Size) 0

structure Extent where
  start : Nat
  stop : Nat
  deriving DecidableEq, Repr

/-- The characters up to a byte and those from there on, if a character starts there. -/
def splitAtByte? (n : Nat) : List Char → Option (List Char × List Char)
  | [] => if n = 0 then some ([], []) else none
  | c :: r =>
    if n = 0 then some ([], c :: r)
    else if c.utf8Size ≤ n then
      (splitAtByte? (n - c.utf8Size) r).map fun (before, after) => (c :: before, after)
    else none

namespace Extent

def covering (start : Nat) (s : List Char) : Extent := ⟨start, start + byteCount s⟩

/-- The part of a text that stands there, if characters start and end there. -/
def cut? (e : Extent) (s : List Char) : Option (List Char) := do
  let (_, fromStart) ← splitAtByte? e.start s
  let (part, _) ← splitAtByte? (e.stop - e.start) fromStart
  return part

end Extent
end CrudLayer.Text
