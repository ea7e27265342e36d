import Mathlib
import CrudLayer.Artifact.Content
import CrudLayer.Proofs.Filling

namespace CrudLayer.Listing

/-- The characters of a fixed text are known without decoding it. -/
theorem toList_fixed {s : String} {cs : List Char} (h : s = String.ofList cs) : s.toList = cs := by
  rw [h, String.toList_ofList]

def characters (ls : Listing) : List (List Char) := ls.map String.toList

theorem characters_nil : characters [] = [] := rfl

theorem characters_cons (l : String) (ls : Listing) :
    characters (l :: ls) = l.toList :: characters ls := rfl

theorem characters_append (as bs : Listing) :
    characters (as ++ bs) = characters as ++ characters bs := List.map_append

def starred (cs : List Char) : List Char :=
  if cs.isEmpty then [' ', '*'] else ' ' :: '*' :: ' ' :: cs

def steppedIn (cs : List Char) : List Char :=
  if cs.isEmpty then cs else ' ' :: ' ' :: ' ' :: ' ' :: cs

theorem isEmpty_toList (s : String) : s.toList.isEmpty = s.isEmpty := by
  rw [Bool.eq_iff_iff, List.isEmpty_iff, String.isEmpty_iff, String.toList_eq_nil_iff]

theorem characters_indented (ls : Listing) :
    characters (indented ls) = (characters ls).map steppedIn := by
  have hstep : ("    " : String).toList = [' ', ' ', ' ', ' '] := toList_fixed rfl
  simp only [characters, indented, List.map_map]
  apply List.map_congr_left
  intro l _
  simp only [Function.comp_apply, steppedIn, isEmpty_toList]
  split
  · rfl
  · rw [String.toList_append, hstep]
    rfl

theorem characters_apart (parts : List Listing) :
    characters (apart parts) = [[]].intercalate (parts.map characters) := by
  induction parts with
  | nil => rfl
  | cons p parts ih =>
    cases parts with
    | nil => simp [apart]
    | cons next parts =>
      have hblank : characters [""] = [[]] := rfl
      rw [apart_cons_cons, characters_append, characters_append, hblank, ih, List.map_cons,
        List.map_cons, List.map_cons, List.intercalate_cons_cons]

theorem characters_braced (head : String) (body : Listing) (tail : String) :
    characters (braced head body tail) =
      [head.toList ++ [' ', '\x7b']] ++ (characters body).map steppedIn ++
        ['\x7d' :: tail.toList] := by
  have hopen : (" \x7b" : String).toList = [' ', '\x7b'] := toList_fixed rfl
  have hclose : ("\x7d" : String).toList = ['\x7d'] := toList_fixed rfl
  simp [braced, characters_append, characters_cons, characters_indented, characters_nil, hopen,
    hclose]

theorem characters_continued (head : String) (rest : Listing) :
    characters (continued head rest) = [head.toList] ++ (characters rest).map steppedIn := by
  simp [continued, characters_cons, characters_indented]

theorem characters_parenthesized (head : String) (parameters body : Listing) :
    characters (parenthesized head parameters body) =
      [head.toList ++ ['(']] ++ (characters parameters).map steppedIn ++
        ([[')', ' ', '\x7b']] ++ (characters body).map steppedIn ++ [['\x7d']]) := by
  have hopen : ("(" : String).toList = ['('] := toList_fixed rfl
  have hclose : (")" : String).toList = [')'] := toList_fixed rfl
  simp [parenthesized, characters_append, characters_cons, characters_indented, characters_braced,
    hopen, hclose]

theorem characters_documentation (ls : Listing) :
    characters (documentation ls) =
      [['/', '*', '*']] ++ (characters ls).map starred ++ [[' ', '*', '/']] := by
  have hopen : ("/**" : String).toList = ['/', '*', '*'] := toList_fixed rfl
  have hclose : (" */" : String).toList = [' ', '*', '/'] := toList_fixed rfl
  have hstar : (" *" : String).toList = [' ', '*'] := toList_fixed rfl
  have hstars : (" * " : String).toList = [' ', '*', ' '] := toList_fixed rfl
  have hlines : characters (ls.map fun l => if l.isEmpty then " *" else " * " ++ l) =
      (characters ls).map starred := by
    simp only [characters, List.map_map]
    apply List.map_congr_left
    intro l _
    simp only [Function.comp_apply, starred, isEmpty_toList]
    split
    · exact hstar
    · rw [String.toList_append, hstars]
      rfl
  rw [documentation, characters_append, characters_append, hlines, characters_cons, characters_cons,
    characters_nil, hopen, hclose]

/-- A file begins with its package and its imports, one to a line. -/
theorem characters_file (package : String) (imports : List String) (declaration : Listing) :
    characters (file package imports declaration) =
      ["package ".toList ++ package.toList ++ [';'], []] ++
        imports.map (fun i => "import ".toList ++ i.toList ++ [';']) ++ [[]] ++
          characters declaration := by
  have hend : (";" : String).toList = [';'] := toList_fixed rfl
  simp [file, characters, hend]

end CrudLayer.Listing

namespace CrudLayer.Context

open Listing

variable (types : List SemanticType) (k : ArtifactKind)

theorem toList_entityVariable_form : (form types).entityVariable.toList = ['ω'] := by
  have hform : (form types).entityVariable = "ω" :=
    (by decide : Naming.lowerFirst "Ω" = "ω")
  rw [hform]
  exact toList_fixed rfl

/-- In a form, the name of a type is the entity's letter with the suffix of the kind. -/
theorem toList_typeName_form : ((form types).typeName k).toList = 'Ω' :: k.suffix.toList := by
  have hentity : (form types).entityName.toList = ['Ω'] := toList_fixed rfl
  rw [typeName, ArtifactKind.typeName, String.toList_append, hentity]
  rfl

/-- In a form, a package is the letter of the base package and then its layer. -/
theorem toList_package_form :
    ((form types).package k).toList = 'π' :: '.' :: (".".intercalate k.layer).toList := by
  have hbase : (form types).basePackage.toList = ['π'] := toList_fixed rfl
  have hdot : (".": String).toList = ['.'] := toList_fixed rfl
  rw [package, ArtifactKind.package, String.toList_append, String.toList_append, hbase, hdot]
  rfl

end CrudLayer.Context
