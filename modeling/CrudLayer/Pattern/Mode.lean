import CrudLayer.Text.Blank
import CrudLayer.Text.Reading

namespace CrudLayer.Pattern

structure Mode where
  /-- White space and comments between parts mean nothing. -/
  spaced : Bool := false
  /-- A letter stands for both of its cases. -/
  caseless : Bool := false
  /-- A part matches whole characters, and not bytes. -/
  whole : Bool := true
  deriving DecidableEq, Repr

/-- The characters after white space and comments at the front. A comment goes on to the end of its
line. -/
def skipGap (inComment : Bool) : List Char → List Char
  | [] => []
  | c :: r =>
    if inComment then skipGap (c != '\n') r
    else if Text.isBlank c then skipGap false r
    else if c = '#' then skipGap true r
    else c :: r

theorem length_skipGap_le (inComment : Bool) (s : List Char) :
    (skipGap inComment s).length ≤ s.length := by
  induction s generalizing inComment with
  | nil => exact Nat.le_refl _
  | cons c r ih =>
    unfold skipGap
    repeat' split
    · exact Nat.le_succ_of_le (ih _)
    · exact Nat.le_succ_of_le (ih _)
    · exact Nat.le_succ_of_le (ih _)
    · exact Nat.le_refl _

namespace Mode

def skip (m : Mode) (s : List Char) : List Char := if m.spaced then skipGap false s else s

theorem length_skip_le (m : Mode) (s : List Char) : (m.skip s).length ≤ s.length := by
  unfold skip
  split
  · exact length_skipGap_le false s
  · exact Nat.le_refl _

theorem length_skip_lt (m : Mode) {s t : List Char} (h : t.length < s.length) :
    (m.skip t).length < s.length :=
  Nat.lt_of_le_of_lt (m.length_skip_le t) h

/-- The letters that stand for ways to read a pattern. Four of them change what the pattern matches,
but not whether it can be read. -/
def letters : List Char := ['i', 'm', 's', 'U', 'u', 'R', 'x']

/-- Letters, none of them twice. A dash may come before some of them. -/
def isSettings (s : List Char) : Bool :=
  s.all (fun c => c == '-' || letters.contains c) && decide s.Nodup && s.getLast? != some '-'

def switch (on : Bool) (m : Mode) : Char → Mode
  | 'x' => { m with spaced := on }
  | 'i' => { m with caseless := on }
  | 'u' => { m with whole := on }
  | _ => m

/-- The mode with settings: what stands before a dash is switched on, and what is after it off. -/
def adjusted (m : Mode) (settings : List Char) : Mode :=
  (settings.dropWhile (· != '-')).foldl (switch false)
    ((settings.takeWhile (· != '-')).foldl (switch true) m)

end Mode
end CrudLayer.Pattern
