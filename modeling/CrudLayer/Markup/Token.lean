import CrudLayer.Markup.Reading

/-!
The tokens of a document: tags, and what stands between them. A token holds the characters of
attributes and text as they were written, with their references unresolved.
-/
namespace CrudLayer.Markup

open Text

inductive Token
  /-- A start tag, or the tag of an empty element. -/
  | opening (name : QualifiedName) (attributes : List (QualifiedName × List Char)) (empty : Bool)
  | closing (name : QualifiedName)
  | text (written : List Char)
  | literal (content : List Char)
  | comment (content : List Char)
  | instruction (target content : List Char)
  deriving DecidableEq, Repr

/-- The end of a start tag, or of the tag of an empty element, which the flag tells apart. -/
def tagEnd? : Reader Bool :=
  ((Reader.word '>' []).map fun _ => false).orElse ((Reader.word '/' ['>']).map fun _ => true)

/-- The attributes of a tag and its end. White space comes before each attribute. The flag says
whether the tag is that of an empty element. -/
def attributes? (s : List Char) :
    Option (Reading (List (QualifiedName × List Char) × Bool) s) :=
  match tagEnd?.skipping isSpace s with
  | some t => some (t.map fun empty => ([], empty))
  | none =>
    if s.head?.any isSpace then
      match assignment?.skipping isSpace s with
      | some ⟨a, r, h⟩ =>
        (attributes? r).map fun t => (t.map fun (as, empty) => (a :: as, empty)).beyond h
      | none => none
    else none
termination_by s.length

def hasLiteralEnd : List Char → Bool
  | [] => false
  | c :: r => [']', ']', '>'].isPrefixOf (c :: r) || hasLiteralEnd r

def hasDoubleDash : List Char → Bool
  | '-' :: '-' :: _ => true
  | _ :: r => hasDoubleDash r
  | [] => false

/-- The rest of a comment. No two dashes stand side by side in it, nor does it end in one. -/
def comment? : Reader Token := (upTo? '-' ['-', '>']).filterMap fun content =>
  if hasDoubleDash content || content.getLast? == some '-' then none else some (.comment content)

def instruction? : Reader Token := name?.andThen fun target =>
  ((upTo? '?' ['>']).skipping isSpace).map fun content => .instruction target content

def literal? : Reader Token := (upTo? ']' [']', '>']).map .literal

def closing? : Reader Token := qualifiedName?.andThen fun name =>
  ((Reader.word '>' []).skipping isSpace).map fun _ => .closing name

def opening? : Reader Token := qualifiedName?.andThen fun name =>
  Reader.map attributes? fun (attributes, empty) => .opening name attributes empty

def plain? : Reader (List Char)
  | [] => none
  | c :: _ => some (.span c (· != '<'))

def text? : Reader Token := plain?.filterMap fun written =>
  if written.all isPermitted && !hasLiteralEnd written then some (.text written) else none

/-- The declaration of a document can stand at its start only, where it is no token. -/
def declarationStart : List Char := "<?xml ".toList

def tokenReader : List Char → Reader Token
  | '<' :: '!' :: '-' :: _ => (Reader.word '<' ['!', '-', '-']).andThen fun _ => comment?
  | '<' :: '!' :: _ => (Reader.word '<' "![CDATA[".toList).andThen fun _ => literal?
  | '<' :: '?' :: _ => (Reader.word '<' ['?']).andThen fun _ => instruction?
  | '<' :: '/' :: _ => (Reader.word '<' ['/']).andThen fun _ => closing?
  | '<' :: _ => (Reader.word '<' []).andThen fun _ => opening?
  | _ => text?

def token? : Reader Token := fun s =>
  if declarationStart.isPrefixOf s then none else tokenReader s s

/-- A part of the declaration, which a word announces, and the white space after it, which may be
missing before the end of the declaration. -/
def declared? (word : String) (s : List Char) : Option (List Char) :=
  if word.toList.isPrefixOf s then do
    let ⟨_, r, _⟩ ← assignment? s
    match r with
    | [] => return r
    | c :: _ =>
      if isSpace c then return skipSpaces r
      else if ['?', '>'].isPrefixOf r then return r
      else none
  else none

/-- The characters after the declaration. The version has to be given, the encoding and the
standalone flag may be, in this order. -/
def afterDeclaration? (s : List Char) : Option (List Char) :=
  if declarationStart.isPrefixOf s then do
    let r ← declared? "version" (skipSpaces (s.drop declarationStart.length))
    let r ← if "encoding".toList.isPrefixOf r then declared? "encoding" r else some r
    let r ← if "standalone".toList.isPrefixOf r then (assignment? r).map (·.rest) else some r
    (Reader.word '?' ['>'] (skipSpaces r)).map (·.rest)
  else some s

end CrudLayer.Markup
