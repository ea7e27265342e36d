import Mathlib
import CrudLayer.Artifact.Listing

/-!
Generated files read back line by line. No line of a listing holds a line end, so the text splits
into the very lines it was made of, and what a reader finds in a listing it finds part by part.
-/
namespace CrudLayer.Listing

/-- The lines of a text. -/
def lines (text : String) : Listing := (text.toList.splitOn '\n').map String.ofList

def Unbroken (ls : Listing) : Prop := ∀ l ∈ ls, '\n' ∉ l.toList

/-- A text splits into the lines that it was made of. -/
theorem lines_render (ls : Listing) (h : Unbroken ls) (hne : ls ≠ []) : lines ls.render = ls := by
  have hpieces : ∀ piece ∈ ls.map String.toList, '\n' ∉ piece := by
    intro piece hp
    obtain ⟨l, hl, rfl⟩ := List.mem_map.mp hp
    exact h l hl
  simp only [lines, render, String.toList_intercalate]
  rw [show "\n".toList = ['\n'] from rfl,
    List.splitOn_intercalate '\n' hpieces (by simpa using hne)]
  simp

@[simp] theorem unbroken_nil : Unbroken [] := by
  simp [Unbroken]

@[simp] theorem unbroken_cons (l : String) (ls : Listing) :
    Unbroken (l :: ls) ↔ '\n' ∉ l.toList ∧ Unbroken ls := by
  simp [Unbroken]

@[simp] theorem unbroken_append (as bs : Listing) :
    Unbroken (as ++ bs) ↔ Unbroken as ∧ Unbroken bs := by
  simp [Unbroken, or_imp, forall_and]

@[simp] theorem unbroken_indented (ls : Listing) : Unbroken (indented ls) ↔ Unbroken ls := by
  induction ls with
  | nil => simp [indented]
  | cons l ls ih =>
    -- Blank lines are not indented, so the two branches of a line are looked at apart.
    have hcons : indented (l :: ls) =
        (if l.isEmpty then l else "    " ++ l) :: indented ls := rfl
    rw [hcons, unbroken_cons, unbroken_cons, ih]
    split <;> simp

theorem apart_cons_cons (p next : Listing) (parts : List Listing) :
    apart (p :: next :: parts) = p ++ [""] ++ apart (next :: parts) :=
  List.intercalate_cons_cons

@[simp] theorem unbroken_apart (parts : List Listing) :
    Unbroken (apart parts) ↔ ∀ p ∈ parts, Unbroken p := by
  induction parts with
  | nil => simp [apart]
  | cons p parts ih =>
    cases parts with
    | nil => simp [apart]
    | cons next parts =>
      rw [apart_cons_cons, unbroken_append, unbroken_append, ih]
      simp

@[simp] theorem unbroken_braced (head : String) (body : Listing) (tail : String) :
    Unbroken (braced head body tail) ↔
      '\n' ∉ head.toList ∧ Unbroken body ∧ '\n' ∉ tail.toList := by
  simp [braced]

@[simp] theorem unbroken_documentation (ls : Listing) :
    Unbroken (documentation ls) ↔ Unbroken ls := by
  have hline : ∀ l : String,
      '\n' ∉ (if l.isEmpty then " *" else " * " ++ l).toList ↔ '\n' ∉ l.toList := by
    intro l
    split
    · rename_i hl
      rw [String.isEmpty_iff.mp hl]
      decide
    · simp
  have hmap : Unbroken (ls.map fun l => if l.isEmpty then " *" else " * " ++ l) ↔
      Unbroken ls := by
    induction ls with
    | nil => simp
    | cons l ls ih => rw [List.map_cons, unbroken_cons, unbroken_cons, ih, hline]
  rw [documentation, unbroken_append, unbroken_append, hmap]
  simp

@[simp] theorem unbroken_file (package : String) (imports : List String) (declaration : Listing) :
    Unbroken (file package imports declaration) ↔
      '\n' ∉ package.toList ∧ Unbroken imports ∧ Unbroken declaration := by
  have hmap : Unbroken (imports.map fun i => "import " ++ i ++ ";") ↔ Unbroken imports := by
    induction imports with
    | nil => simp
    | cons i is ih => simp [ih]
  simp [file, hmap]

/-- What the reader finds in a line does not depend on how far in the line stands, and in a blank
line it finds nothing. -/
structure IsReader {α : Type*} (r : String → Option α) : Prop where
  blank : r "" = none
  step_in : ∀ l, r ("    " ++ l) = r l

section Readers

variable {α : Type*} {r : String → Option α}

theorem filterMap_indented (hr : IsReader r) (ls : Listing) :
    (indented ls).filterMap r = ls.filterMap r := by
  rw [indented, List.filterMap_map]
  apply List.filterMap_congr
  intro l _
  simp only [Function.comp_apply]
  split
  · rfl
  · exact hr.step_in l

/-- A reader finds nothing in the blank lines between parts. -/
theorem filterMap_apart (hr : IsReader r) (parts : List Listing) :
    (apart parts).filterMap r = parts.flatMap (·.filterMap r) := by
  induction parts with
  | nil => rfl
  | cons p parts ih =>
    cases parts with
    | nil => simp [apart]
    | cons next parts =>
      rw [apart_cons_cons, List.filterMap_append, List.filterMap_append, ih, List.flatMap_cons]
      simp [hr.blank]

/-- A reader that finds nothing in the lines of the brackets finds what is in the body. -/
theorem filterMap_braced (hr : IsReader r) (head : String) (body : Listing) (tail : String)
    (hhead : r (head ++ " \x7b") = none) (htail : r ("\x7d" ++ tail) = none) :
    (braced head body tail).filterMap r = body.filterMap r := by
  simp [braced, filterMap_indented hr, hhead, htail]

theorem filterMap_documentation (ls : Listing) (hopen : r "/**" = none)
    (hstar : ∀ rest, r (" *" ++ rest) = none) : (documentation ls).filterMap r = [] := by
  have hline : ∀ l : String, r (if l.isEmpty then " *" else " * " ++ l) = none := by
    intro l
    split
    · exact hstar ""
    · exact hstar (" " ++ l)
  have hbody : (ls.map fun l => if l.isEmpty then " *" else " * " ++ l).filterMap r = [] := by
    rw [List.filterMap_map]
    exact List.filterMap_eq_nil_iff.mpr fun l _ => hline l
  have hclose : r " */" = none := hstar "/"
  rw [documentation, List.filterMap_append, List.filterMap_append, hbody]
  simp [hopen, hclose]

/-- A reader that finds nothing in the lines of the package and the imports finds what is in the
declaration. -/
theorem filterMap_file (hr : IsReader r) (package : String) (imports : List String)
    (declaration : Listing) (hpackage : ∀ rest, r ("package " ++ rest) = none)
    (himport : ∀ rest, r ("import " ++ rest) = none) :
    (file package imports declaration).filterMap r = declaration.filterMap r := by
  have hp : r ("package " ++ package ++ ";") = none := by
    rw [String.append_assoc]
    exact hpackage _
  have hi : (imports.map fun i => "import " ++ i ++ ";").filterMap r = [] := by
    simp only [List.filterMap_map, String.append_assoc]
    simp [himport]
  rw [file, List.filterMap_append, List.filterMap_append, List.filterMap_append, hi]
  simp [hp, hr.blank]

end Readers

/-- What stands in a line between this head and this tail, blanks before the head apart. -/
def between? (head tail line : String) : Option String :=
  (((line.toList.dropWhile (· == ' ')).dropPrefix? head.toList).bind
    (·.dropSuffix? tail.toList)).map String.ofList

def clash : List Char → List Char → Bool
  | a :: as, b :: bs => a != b || clash as bs
  | _, _ => false

theorem dropPrefix?_of_clash (as bs rest : List Char) (h : clash as bs = true) :
    (bs ++ rest).dropPrefix? as = none := by
  induction as generalizing bs with
  | nil => simp [clash] at h
  | cons a as ih =>
    cases bs with
    | nil => simp [clash] at h
    | cons b bs =>
      by_cases hab : a = b
      · have hrest : clash as bs = true := by simpa [clash, hab] using h
        simp [List.dropPrefix?, hab, ih bs hrest]
      · simp [List.dropPrefix?, Ne.symm hab]

/-- Nothing is found in a line that begins otherwise. -/
theorem between?_of_clash (head tail start rest : String)
    (h : clash head.toList (start.toList.dropWhile (· == ' ')) = true) :
    between? head tail (start ++ rest) = none := by
  have hne : start.toList.dropWhile (· == ' ') ≠ [] := by
    intro hnil
    rw [hnil] at h
    cases hh : head.toList <;> simp [hh, clash] at h
  have hdrop : (start ++ rest).toList.dropWhile (· == ' ') =
      start.toList.dropWhile (· == ' ') ++ rest.toList := by
    rw [String.toList_append, List.dropWhile_append]
    simp [hne]
  rw [between?, hdrop, dropPrefix?_of_clash _ _ _ h]
  rfl

/-- What was put between the head and the tail is found there. -/
theorem between?_self (head tail text : String) (h : head.toList.head? ≠ some ' ')
    (hne : head ≠ "") : between? head tail (head ++ text ++ tail) = some text := by
  obtain ⟨c, cs, hcs⟩ := List.exists_cons_of_ne_nil (show head.toList ≠ [] by simpa using hne)
  have hc : c ≠ ' ' := by simpa [hcs] using h
  have hdrop : (head ++ text ++ tail).toList.dropWhile (· == ' ') =
      head.toList ++ (text.toList ++ tail.toList) := by
    simp [hcs, hc]
  have hprefix : (head.toList ++ (text.toList ++ tail.toList)).dropPrefix? head.toList =
      some (text.toList ++ tail.toList) := List.dropPrefix?_append_of_beq _ (by simp)
  have hsuffix : (text.toList ++ tail.toList).dropSuffix? tail.toList = some text.toList :=
    List.dropSuffix?_eq_some_iff.mpr ⟨tail.toList, rfl, by simp⟩
  rw [between?, hdrop, hprefix, Option.bind_some, hsuffix]
  simp

theorem isReader_between (head tail : String) (hne : head ≠ "") :
    IsReader (between? head tail) where
  blank := by
    obtain ⟨c, cs, hcs⟩ := List.exists_cons_of_ne_nil (show head.toList ≠ [] by simpa using hne)
    simp [between?, hcs, List.dropPrefix?]
  step_in := fun l => by
    have hdrop : ("    " ++ l).toList.dropWhile (· == ' ') = l.toList.dropWhile (· == ' ') := by
      rw [String.toList_append]
      rfl
    rw [between?, between?, hdrop]

end CrudLayer.Listing
