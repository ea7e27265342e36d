import CrudLayer.Event.Basic
import CrudLayer.Pattern.Body
import CrudLayer.Text.Decimal
import CrudLayer.Text.Extent

/-!
Directives on which events are shown: each sets a threshold for the events from a part of the
program.
-/
namespace CrudLayer

/-- The least level that is shown, or nothing is. -/
abbrev Threshold := Option Level

namespace Threshold

def admits (t : Threshold) (l : Level) : Bool :=
  match t with
  | some least => least.rank ≤ l.rank
  | none => false

def names : List (String × Threshold) := [
  ("off", none), ("error", some .error), ("warn", some .warn), ("info", some .info),
  ("debug", some .debug), ("trace", some .trace)]

def ordinal? (s : List Char) : Option Nat :=
  let digits := if s.head? = some '+' then s.drop 1 else s
  if digits.isEmpty then none else Text.number? 10 digits

/-- The threshold that a word stands for: a name in whatever case, or the place of one among the
names, counted from zero. -/
def ofWord? (word : String) : Option Threshold :=
  match ordinal? word.toList with
  | some n => names[n]?.map (·.2)
  | none => (names.find? fun entry => Text.sameIgnoringAsciiCase entry.1 word).map (·.2)

end Threshold

structure Directive where
  /-- What the target of an event starts with, for it to be concerned. -/
  target : Option String := none
  /-- The field that an event has, for it to be concerned. -/
  field : Option String := none
  /-- Only what happens in named spans of a run, or where fields have certain values, is concerned.
  No event of this program is. -/
  confined : Bool := false
  /-- The threshold for the events that are concerned. -/
  threshold : Threshold := some .trace
  deriving DecidableEq, Repr

structure DirectiveLayout where
  target : Option Text.Extent := none
  span : Option Text.Extent := none
  field : Option Text.Extent := none
  /-- Where the threshold starts, which goes on to the end. -/
  threshold : Option Nat := none
  deriving DecidableEq, Repr

namespace DirectiveLayout

def startsTarget (c : Char) : Bool := c == '-' || c == ':' || c == '_' || Text.isAlphanumeric c

def ending? (l : DirectiveLayout) (start : Nat) : List Char → Option DirectiveLayout
  | [] => some l
  | '=' :: _ => some { l with threshold := some (start + 1) }
  | _ => none

/-- The layout with the span that comes next, after its bracket. In braces it may name a field. -/
def span? (l : DirectiveLayout) (start : Nat) (s : List Char) : Option DirectiveLayout :=
  let name := s.takeWhile fun c => c != ']' && c != '\x7b'
  let span := Text.Extent.covering start name
  match s.drop name.length with
  | ']' :: r => { l with span := some span }.ending? (span.stop + 1) r
  | '\x7b' :: r =>
    let inBraces := r.takeWhile (· != '\x7d')
    let field := Text.Extent.covering (span.stop + 1) inBraces
    match r.drop inBraces.length with
    | '\x7d' :: ']' :: r' =>
      if inBraces.isEmpty then none
      else
        let span := if name.isEmpty then none else some span
        { l with span, field := some field }.ending? (field.stop + 2) r'
    | _ => none
  | _ => none

/-- The layout of a text without white space around it. A lone word has a layout without parts. -/
def ofText? : List Char → Option DirectiveLayout
  | [] => none
  | '[' :: r => span? {} 1 r
  | c :: r =>
    if startsTarget c then
      let word := (c :: r).takeWhile fun c => c != '=' && c != '['
      let target := Text.Extent.covering 0 word
      match (c :: r).drop word.length with
      | [] => some {}
      | '[' :: r' => span? { target := some target } (target.stop + 1) r'
      | r' => ending? { target := some target } target.stop r'
    else none

end DirectiveLayout

namespace Directive

def isFieldValue (s : List Char) : Bool := Text.isDecimal s || Pattern.isPattern s

/-- The directive for the events with a field. A value may be asked of it, after an equals sign, and
what comes after another one does not count. -/
def withField? (d : Directive) (field : List Char) : Option Directive :=
  match field.splitOn '=' with
  | [name] => some { d with field := some (.ofList name) }
  | name :: value :: _ =>
    if isFieldValue value then some { d with field := some (.ofList name), confined := true }
    else none
  | [] => none

def ofLayout? (l : DirectiveLayout) (s : List Char) : Option Directive := do
  let target ← l.target.mapM (·.cut? s)
  let span ← l.span.mapM (·.cut? s)
  let field ← l.field.mapM (·.cut? s)
  let threshold ← l.threshold.mapM fun start => Text.Extent.cut? ⟨start, Text.byteCount s⟩ s
  let threshold ← match threshold with
    | none => some (some .trace)
    | some [] => some (some .trace)
    | some word => Threshold.ofWord? (.ofList word)
  let d : Directive := { target := target.map .ofList, confined := span.isSome, threshold }
  match field with
  | none => return d
  | some field => d.withField? field

/-- The directive for a lone word: a threshold if it can be one, and else a target all of whose
events are shown. -/
def ofWord (word : String) : Directive :=
  match Threshold.ofWord? word with
  | some threshold => { threshold }
  | none => { target := some word }

/-- The directive that a text without commas spells. Where its parts stand is told without the white
space around it, but then they are looked up in the text as it is, so that white space at its start
moves them. -/
def parse? (text : String) : Option Directive :=
  match DirectiveLayout.ofText? (Text.trim text).toList with
  | some l => if l = {} then some (ofWord text) else ofLayout? l text.toList
  | none => none

def concerns (d : Directive) (e : Event) : Bool :=
  !d.confined && d.target.all (fun t => t.toList.isPrefixOf e.target.toList) &&
    d.field.all e.fieldNames.contains

/-- How many bytes a target has, counted from one, so that none at all has fewer than any. -/
def targetSize (d : Directive) : Nat :=
  match d.target with
  | some t => t.utf8ByteSize + 1
  | none => 0

/-- A directive is as specific as another, or more: it has the longer target, and of two with
targets of one length, a field if the other has one. Of two fields the one later in the alphabet
counts. -/
def covers (a b : Directive) : Bool :=
  if a.targetSize = b.targetSize then
    match a.field, b.field with
    | some f, some g => g ≤ f
    | none, some _ => false
    | _, none => true
  else b.targetSize < a.targetSize

end Directive

end CrudLayer
