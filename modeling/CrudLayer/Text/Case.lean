import CrudLayer.Text.CaseContext
import CrudLayer.Text.CaseTable

/-!
Upper and lower case, in full: a character may map to several. The lower case of a whole text
differs from that of its characters at one place only, the capital sigma, which is written
otherwise where a word ends.
-/
namespace CrudLayer.Text

def Shift.covers (s : Shift) (n : Nat) : Bool :=
  s.first ≤ n && n ≤ s.last && (n - s.first) % s.stride == 0

/-- The character where the first fitting shift moves it, or where it was. -/
def moveBy (shifts : List Shift) (c : Char) : Char :=
  match shifts.find? (·.covers c.toNat) with
  | some s => Char.ofNat ((c.toNat : Int) + s.distance).toNat
  | none => c

def mapBy (expansions : List (Nat × List Nat)) (shifts : List Shift) (c : Char) : List Char :=
  match expansions.lookup c.toNat with
  | some ns => ns.map Char.ofNat
  | none => [moveBy shifts c]

def upper (c : Char) : List Char :=
  if c.toNat < 0x80 then [c.toUpper] else mapBy upperExpansions upperShifts c

def lower (c : Char) : List Char :=
  if c.toNat < 0x80 then [c.toLower] else mapBy lowerExpansions lowerShifts c

/-- Past the characters that say nothing on where a word ends, there is a letter with case. -/
def meetsCased (cs : List Char) : Bool :=
  match cs.dropWhile isCaseIgnorable with
  | c :: _ => isCased c
  | [] => false

/-- A capital sigma between these characters, the earlier ones nearest first, ends a word. -/
def endsWord (before after : List Char) : Bool :=
  meetsCased before && !meetsCased after

/-- The lower case of the characters that follow `before`, which is given nearest first. -/
def lowerAfter (before : List Char) : List Char → List Char
  | [] => []
  | c :: rest =>
    (if c = 'Σ' then [if endsWord before rest then 'ς' else 'σ'] else lower c) ++
      lowerAfter (c :: before) rest

def lowercase (s : String) : String :=
  String.ofList (lowerAfter [] s.toList)

def sameIgnoringAsciiCase (s t : String) : Bool :=
  s.toList.map Char.toLower == t.toList.map Char.toLower

end CrudLayer.Text
