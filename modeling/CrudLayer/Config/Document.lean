import CrudLayer.Config
import CrudLayer.Text.Reading

/-!
Settings as a document: lines that give a text to a key. Of all that the format has, tables and
values other than texts are left out, because no setting is one.
-/
namespace CrudLayer.Config.Document

open Text

def isSpace (c : Char) : Bool := c == ' ' || c == '\t'

/-- The character may occur inside a line: it is no control character other than the tab. -/
def isPlain (c : Char) : Bool := c == '\t' || (c.toNat ≥ 0x20 && c.toNat != 0x7F)

def lineEnd? : Reader Unit := (Reader.word '\n' []).orElse (Reader.word '\r' ['\n'])

def skipComment : List Char → List Char
  | '#' :: r => r.dropWhile isPlain
  | s => s

def skipBlank (s : List Char) : List Char := skipComment (s.dropWhile isSpace)

def afterBlank? (s : List Char) : Option (List Char) :=
  match skipBlank s with
  | [] => some []
  | c :: r => (lineEnd? (c :: r)).map (·.rest)

theorem length_skipComment_le (s : List Char) : (skipComment s).length ≤ s.length := by
  unfold skipComment
  split
  · exact Nat.le_succ_of_le (length_dropWhile_le isPlain _)
  · exact Nat.le_refl _

theorem length_skipBlank_le (s : List Char) : (skipBlank s).length ≤ s.length :=
  Nat.le_trans (length_skipComment_le _) (length_dropWhile_le isSpace s)

/-- What follows a blank line is shorter, unless nothing does. -/
theorem eq_nil_or_length_lt_of_afterBlank? {s r : List Char} (h : afterBlank? s = some r) :
    r = [] ∨ r.length < s.length := by
  unfold afterBlank? at h
  split at h
  · cases h
    exact .inl rfl
  · rename_i c t ht
    obtain ⟨x, -, rfl⟩ := Option.map_eq_some_iff.1 h
    exact .inr (Nat.lt_of_lt_of_le x.shorter (ht ▸ length_skipBlank_le s))

theorem length_le_of_afterBlank? {s r : List Char} (h : afterBlank? s = some r) :
    r.length ≤ s.length := by
  rcases eq_nil_or_length_lt_of_afterBlank? h with rfl | h
  · exact Nat.zero_le _
  · exact Nat.le_of_lt h

theorem length_lt_of_afterBlank?_cons {c : Char} {r t : List Char}
    (h : afterBlank? (c :: r) = some t) : t.length < (c :: r).length := by
  rcases eq_nil_or_length_lt_of_afterBlank? h with rfl | h
  · exact Nat.succ_pos _
  · exact h

def letterEscape? (c : Char) : Option Char :=
  [('b', '\x08'), ('t', '\t'), ('n', '\n'), ('f', '\x0c'), ('r', '\r'), ('e', '\x1b'), ('"', '"'),
    ('\\', '\\')].lookup c

def named? (width : Nat) (digits : List Char) : Option Char :=
  if digits.length = width then (number? 16 digits).bind numbered? else none

def escape? : Reader Char
  | [] => none
  | c :: r =>
    match letterEscape? c, numberWidth? c with
    | some d, _ => some (.one c d)
    | none, some width => (named? width (r.take width)).map fun d => .counted c width d
    | none, none => none

/-- The rest of a text between two quotes on one line. Between double quotes there are escapes. -/
def line? (quote : Char) (s : List Char) : Option (Reading (List Char) s) :=
  match s with
  | [] => none
  | c :: r =>
    if c = quote then some (.one c [])
    else if c = '\\' ∧ quote = '"' then
      match escape? r with
      | some ⟨d, t, h⟩ => (line? quote t).map fun ds => ((ds.map (d :: ·)).beyond h).after c
      | none => none
    else if isPlain c then (line? quote r).map fun ds => (ds.map (c :: ·)).after c
    else none
termination_by s.length

def skipLines : List Char → List Char
  | '\r' :: '\n' :: r => skipLines r
  | c :: r => if isSpace c || c == '\n' then skipLines r else c :: r
  | [] => []

theorem length_skipLines_le (s : List Char) : (skipLines s).length ≤ s.length := by
  fun_induction skipLines s with
  | case1 r ih =>
    simp only [List.length_cons]
    omega
  | case2 c r _ _ ih =>
    simp only [List.length_cons]
    omega
  | case3 => exact Nat.le_refl _
  | case4 => exact Nat.le_refl _

/-- White space that begins on this line and ends on a later one. -/
def lineEnds? : Reader Unit := fun s =>
  match lineEnd?.skipping isSpace s with
  | some ⟨_, t, h⟩ => some ⟨(), skipLines t, shorter_of_le_of_lt (length_skipLines_le t) h⟩
  | none => none

/-- What a backslash goes on with in a text of many lines: white space that it takes away, or an
escaped character. -/
def blockEscape? : Reader (List Char) :=
  (lineEnds?.map fun _ => []).orElse (escape?.map fun c => [c])

/-- The rest of a text between three quotes and three quotes, which may have line ends in it. Up to
two quotes before the last three belong to the text. Between double quotes there are escapes, and a
backslash before a line end takes away all white space from there on. -/
def block? (quote : Char) (s : List Char) : Option (Reading (List Char) s) :=
  match s with
  | [] => none
  | c :: r =>
    if c = quote ∧ [quote, quote].isPrefixOf r then
      -- The first three quotes end the text, but of more than three the first ones belong to it.
      let more := ((r.drop 2).takeWhile (· == quote)).take 2
      some (.counted c (2 + more.length) more)
    else if c = '\\' ∧ quote = '"' then
      match blockEscape? r with
      | some ⟨d, t, h⟩ => (block? quote t).map fun ds => ((ds.map (d ++ ·)).beyond h).after c
      | none => none
    else if isPlain c || (lineEnd? (c :: r)).isSome then
      (block? quote r).map fun ds => (ds.map (c :: ·)).after c
    else none
termination_by s.length

def isQuote (c : Char) : Bool := c == '"' || c == '\''

def quotedLine? : Reader (List Char)
  | [] => none
  | q :: r => if isQuote q then (line? q r).map (·.after q) else none

/-- A text between three quotes and three quotes. A line end right after the first three is not part
of the text. -/
def quotedBlock? (q : Char) : Reader (List Char) := (Reader.word q [q, q]).andThen fun _ =>
  (lineEnd?.andThen fun _ => block? q).orElse (block? q)

def text? : Reader (List Char)
  | [] => none
  | q :: r =>
    if isQuote q && [q, q].isPrefixOf r then quotedBlock? q (q :: r) else quotedLine? (q :: r)

def isKeyCharacter (c : Char) : Bool := c.isAlphanum || c == '_' || c == '-'

def key? : Reader (List Char)
  | [] => none
  | c :: r =>
    if isKeyCharacter c then some (.span c isKeyCharacter) else quotedLine? (c :: r)

structure Assignment where
  key : String
  text : String
  deriving DecidableEq, Repr

def assignment? : Reader Assignment := key?.andThen fun key =>
  ((Reader.word '=' []).skipping isSpace).andThen fun _ =>
    (text?.skipping isSpace).map fun text => ⟨.ofList key, .ofList text⟩

def blankLine? : Reader Unit
  | [] => none
  | c :: r =>
    match h : afterBlank? (c :: r) with
    | some t => some ⟨(), t, length_lt_of_afterBlank?_cons h⟩
    | none => none

def assignmentLine? : Reader Assignment := fun s =>
  match assignment?.skipping isSpace s with
  | some ⟨a, r, h⟩ =>
    match h' : afterBlank? r with
    | some t => some ⟨a, t, shorter_of_le_of_lt (length_le_of_afterBlank? h') h⟩
    | none => none
  | none => none

def entry? : Reader (Option Assignment) :=
  (blankLine?.map fun _ => none).orElse (assignmentLine?.map some)

def assignments? (s : List Char) : Option (List Assignment) :=
  if s = [] then some []
  else
    match entry? s with
    | some ⟨a, t, _⟩ => (assignments? t).map (a.toList ++ ·)
    | none => none
termination_by s.length

/-- The settings with one more, which must be known and not yet given. -/
def put? (s : Settings) (a : Assignment) : Option Settings :=
  if a.key = "base_package" ∧ s.basePackage = none then
    some { s with basePackage := some a.text }
  else if a.key = "base_path" ∧ s.basePath = none then
    some { s with basePath := some ⟨a.text⟩ }
  else none

end Config.Document

/-- The settings that a document gives. A mark of the byte order may come first. -/
def Settings.ofDocument? (document : String) : Option Settings := do
  let s := match document.toList with
    | '\uFEFF' :: r => r
    | s => s
  (← Config.Document.assignments? s).foldlM Config.Document.put? {}

end CrudLayer
