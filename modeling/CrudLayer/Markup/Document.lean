import CrudLayer.Markup.Token

/-!
Documents as trees. Reading a text gives its tree, with each name in the space that its alias stands
for, or nothing, if the text is not well formed.
-/
namespace CrudLayer.Markup

open Text

structure Attribute where
  /-- The space that the name belongs to, if any. -/
  space : Option String
  name : String
  value : String
  deriving DecidableEq, Repr

/-- A piece of a document with all that is in it. -/
inductive Node
  | element (space : Option String) (name : String) (attributes : List Attribute)
    (children : List Node)
  | text (content : String)
  | comment (content : String)
  | instruction (target content : String)
  deriving Repr

namespace Node

/-- The node is an element of this name, in whatever space. -/
def isNamed (name : String) : Node → Bool
  | element _ n _ _ => n = name
  | _ => false

/-- The value of the first attribute of this name, in whatever space. -/
def attribute? (name : String) : Node → Option String
  | element _ _ attributes _ => (attributes.find? (·.name = name)).map (·.value)
  | _ => none

def children : Node → List Node
  | element _ _ _ children => children
  | _ => []

mutual

/-- The node and all nodes in it, each before those in it. -/
def withDescendants : Node → List Node
  | element space name attributes children =>
    element space name attributes children :: allWithDescendants children
  | text content => [text content]
  | comment content => [comment content]
  | instruction target content => [instruction target content]

def allWithDescendants : List Node → List Node
  | [] => []
  | n :: rest => withDescendants n ++ allWithDescendants rest

end

end Node

def xmlSpace : String := "http://www.w3.org/XML/1998/namespace"

def bindingSpace : String := "http://www.w3.org/2000/xmlns/"

/-- The spaces that aliases stand for, the nearest binding first. The empty alias is that of
elements whose names have none. -/
abbrev Bindings := List (String × String)

inductive AttributeRole
  | binding (scope space : String)
  /-- A binding that says what holds anyway. -/
  | redundant
  | plain (name : QualifiedName) (value : String)

/-- What an attribute does. The alias `xml` and its space belong to each other and to nothing
else. An attribute named `xmlns` binds the empty alias, whatever alias it has itself. -/
def roleOf? (name : QualifiedName) (value : String) : Option AttributeRole :=
  if name.scope = "xmlns" then
    if value = bindingSpace ∨ (name.name = "xml") ≠ (value = xmlSpace) then none
    else if name.name = "xml" then some .redundant
    else some (.binding name.name value)
  else if name.name = "xmlns" then
    if value = xmlSpace ∨ value = bindingSpace then none else some (.binding "" value)
  else some (.plain name value)

/-- The bindings that a tag adds, and the attributes that are left. No alias but the empty one is
bound twice by one tag. -/
def bindingsOf? : List (QualifiedName × List Char) →
    Option (Bindings × List (QualifiedName × String))
  | [] => some ([], [])
  | (name, written) :: rest => do
    let value ← attributeValue? written
    let role ← roleOf? name (.ofList value)
    let (bindings, plain) ← bindingsOf? rest
    match role with
    | .binding scope space =>
      if scope ≠ "" ∧ (bindings.lookup scope).isSome then none
      else return ((scope, space) :: bindings, plain)
    | .redundant => return (bindings, plain)
    | .plain name value => return (bindings, (name, value) :: plain)

/-- An attribute in its space. Without an alias it is in none. -/
def attributeIn? (bindings : Bindings) (name : QualifiedName) (value : String) :
    Option Attribute :=
  if name.scope = "" then some ⟨none, name.name, value⟩
  else if name.scope = "xml" then some ⟨some xmlSpace, name.name, value⟩
  else (bindings.lookup name.scope).map fun space => ⟨some space, name.name, value⟩

def distinct : List Attribute → Bool
  | [] => true
  | a :: rest => rest.all (fun b => a.space ≠ b.space || a.name ≠ b.name) && distinct rest

/-- The space of an element, which is none where the empty alias is not bound. -/
def spaceOf? (bindings : Bindings) (name : QualifiedName) : Option (Option String) :=
  if name.scope = "" then some (bindings.lookup "")
  else if name.scope = "xmlns" then none
  else (bindings.lookup name.scope).map some

structure OpenElement where
  /-- The name as written, which the end tag has to repeat. -/
  tag : QualifiedName
  space : Option String
  attributes : List Attribute
  /-- The bindings that hold inside. -/
  bindings : Bindings
  /-- The nodes inside so far, the latest first. -/
  inside : List Node

def OpenElement.close (e : OpenElement) : Node :=
  .element e.space e.tag.name e.attributes e.inside.reverse

/-- A document that has been read in part: the open elements, the innermost first, and the root once
it has been closed. -/
structure Partial where
  opened : List OpenElement := []
  root : Option Node := none

namespace Partial

/-- The document with a node after all that was read. Outside the root there is no room for text,
nor for a second root. -/
def add? (p : Partial) (n : Node) : Option Partial :=
  match p.opened, n with
  | e :: rest, n => some { p with opened := { e with inside := n :: e.inside } :: rest }
  | [], .element .. => if p.root.isSome then none else some { p with root := some n }
  | [], .text _ => none
  | [], _ => some p

def feed? (p : Partial) : Token → Option Partial
  | .opening tag written empty => do
    let outer := match p.opened with
      | e :: _ => e.bindings
      | [] => []
    let (added, plain) ← bindingsOf? written
    let bindings := added ++ outer
    let space ← spaceOf? bindings tag
    let attributes ← plain.mapM fun (name, value) => attributeIn? bindings name value
    if !distinct attributes then none
    else
      -- An empty element is closed as soon as it is opened, and may be the root.
      let e : OpenElement := ⟨tag, space, attributes, bindings, []⟩
      if empty then p.add? e.close
      else if p.opened.isEmpty && p.root.isSome then none
      else some { p with opened := e :: p.opened }
  | .closing tag =>
    match p.opened with
    | e :: rest => if e.tag = tag then { p with opened := rest }.add? e.close else none
    | [] => none
  | .text written =>
    if p.opened.isEmpty then if written.all isSpace then some p else none
    else do p.add? (.text (.ofList (← resolve? written)))
  | .literal content =>
    if p.opened.isEmpty then none else p.add? (.text (.ofList content))
  | .comment content => p.add? (.comment (.ofList content))
  | .instruction target content => p.add? (.instruction (.ofList target) (.ofList content))

def root? (p : Partial) : Option Node := if p.opened.isEmpty then p.root else none

def feedAll? (p : Partial) (s : List Char) : Option Partial :=
  match s with
  | [] => some p
  | c :: r => do
    let ⟨t, rest, _⟩ ← token? (c :: r)
    (← p.feed? t).feedAll? rest
termination_by s.length
decreasing_by
  simp only [List.length_cons] at *
  omega

end Partial

/-- The root of the document that a text spells. A byte order mark before it is skipped. -/
def root? (text : String) : Option Node := do
  let s := text.toList
  let s := if s.head? = some '\uFEFF' then s.tail else s
  let p ← ({} : Partial).feedAll? (← afterDeclaration? s)
  p.root?

end CrudLayer.Markup
