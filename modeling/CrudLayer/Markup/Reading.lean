import CrudLayer.Markup.Character
import CrudLayer.Text.Reading

namespace CrudLayer.Markup

open Text

def skipSpaces (s : List Char) : List Char := s.dropWhile isSpace

def name? : Reader (List Char)
  | [] => none
  | c :: _ => if startsName c then some (.span c continuesName) else none

structure QualifiedName where
  /-- The alias, empty if there is none. -/
  scope : String
  name : String
  deriving DecidableEq, Repr

def canBeName (s : List Char) : Bool :=
  match s with
  | c :: _ => startsName c
  | [] => false

/-- The name that these characters spell, with at most one colon. A colon may come first, with no
alias before it. -/
def qualify? (s : List Char) : Option QualifiedName :=
  match s.splitOn ':' with
  | [name] => if canBeName name then some ⟨"", .ofList name⟩ else none
  | [scope, name] =>
    if (scope.isEmpty || canBeName scope) && canBeName name then
      some ⟨.ofList scope, .ofList name⟩
    else none
  | _ => none

def nameCharacters? : Reader (List Char)
  | [] => none
  | c :: _ => if continuesName c then some (.span c continuesName) else none

def qualifiedName? : Reader QualifiedName := nameCharacters?.filterMap qualify?

/-- Characters up to the word that starts with `first` and goes on with `more`, all of them
permitted. The word is read as well. -/
def upTo? (first : Char) (more : List Char) : Reader (List Char)
  | [] => none
  | c :: r =>
    match Reader.word first more (c :: r) with
    | some stop => some (stop.map fun _ => [])
    | none =>
      if isPermitted c then (upTo? first more r).map fun t => (t.map (c :: ·)).after c else none

/-- Characters between two quotes of one kind. None of them opens markup. -/
def quoted? : Reader (List Char)
  | [] => none
  | q :: r =>
    if q = '"' ∨ q = '\'' then
      match upTo? q [] r with
      | some t => if t.value.contains '<' then none else some (t.after q)
      | none => none
    else none

def assignment? : Reader (QualifiedName × List Char) :=
  qualifiedName?.andThen fun name =>
    ((Reader.word '=' []).skipping isSpace).andThen fun _ =>
      (quoted?.skipping isSpace).map fun value => (name, value)

/-- The character with this number, if there is one, or the replacement character. Numbers of more
than 32 bits and characters that are not permitted are refused. -/
def characterOf? (n : Nat) : Option Char :=
  if n < 0x100000000 then
    let c := if n.isValidChar then Char.ofNat n else '\uFFFD'
    if isPermitted c then some c else none
  else none

def ofDigits? (base : Nat) (digits : List Char) : Option Char :=
  if digits.isEmpty then none
  else do characterOf? (← number? base digits)

def namedCharacter? (name : List Char) : Option Char :=
  [("quot", '"'), ("amp", '&'), ("apos", '\''), ("lt", '<'), ("gt", '>')].lookup
    (String.ofList name)

def referred? : List Char → Option Char
  | '#' :: 'x' :: digits => ofDigits? 16 digits
  | '#' :: digits => ofDigits? 10 digits
  | name => namedCharacter? name

def reference? : Reader Char := (upTo? ';' []).filterMap referred?

def resolve? (s : List Char) : Option (List Char) :=
  match s with
  | [] => some []
  | '&' :: r => do
    let ⟨c, rest, _⟩ ← reference? r
    return c :: (← resolve? rest)
  | c :: r => do return c :: (← resolve? r)
termination_by s.length

/-- The value of an attribute: references resolved, and each line end or tab that stands there as
itself turned into a space. -/
def attributeValue? (s : List Char) : Option (List Char) :=
  match s with
  | [] => some []
  | '&' :: r => do
    let ⟨c, rest, _⟩ ← reference? r
    return c :: (← attributeValue? rest)
  | '\r' :: '\n' :: r => do return ' ' :: (← attributeValue? r)
  | c :: r => do return (if isSpace c then ' ' else c) :: (← attributeValue? r)
termination_by s.length

end CrudLayer.Markup
