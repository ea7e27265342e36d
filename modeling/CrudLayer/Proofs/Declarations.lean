import Mathlib
import CrudLayer.Artifact.Members
import CrudLayer.Artifact.Service
import CrudLayer.Proofs.Accepted
import CrudLayer.Proofs.Lines

namespace CrudLayer

namespace Listing

def words (cs : List Char) : List (List Char) := (cs.splitOn ' ').filter (· ≠ [])

theorem words_word (w : List Char) (hw : ' ' ∉ w) (hne : w ≠ []) : words w = [w] := by
  have hsplit : w.splitOn ' ' = [w] :=
    List.splitOnP_eq_singleton fun c hc => by
      rw [beq_eq_false_iff_ne]
      rintro rfl
      exact hw hc
  simp [words, hsplit, hne]

theorem words_append (a b : List Char) : words (a ++ ' ' :: b) = words a ++ words b := by
  have hsplit : (a ++ ' ' :: b).splitOn ' ' = a.splitOn ' ' ++ b.splitOn ' ' :=
    List.splitOnP_append_cons a b (by simp)
  rw [words, hsplit, List.filter_append, words, words]

def parameter? (cs : List Char) : Option (String × String) :=
  match words cs with
  | [type, name] => some (String.ofList type, String.ofList name)
  | _ => none

/-- The signature that a text declares up to its closing bracket. -/
def signature? (text : String) : Option Signature :=
  match words (text.toList.takeWhile (· ≠ '(')) with
  | [result, name] => some {
      result := String.ofList result
      name := String.ofList name
      parameters :=
        (((text.toList.dropWhile (· ≠ '(')).drop 1).splitOn ',').filterMap parameter? }
  | _ => none

def method? (line : String) : Option Signature :=
  (between? "public " ") \x7b" line).bind signature?

/-- The methods that have bodies in a text, in order. -/
def methods (text : String) : List Signature := (lines text).filterMap method?

/-- The field that a line declares: the last word before the value, if one is given. -/
def field? (line : String) : Option String :=
  (between? "private " ";" line).bind fun text =>
    (words (text.toList.takeWhile (· ≠ '='))).getLast?.map String.ofList

def fieldNames (text : String) : List String := (lines text).filterMap field?

/-- Texts with different characters at one place stay different, whatever is added to them. -/
theorem append_ne_of_clash (as bs x y : List Char) (h : clash as bs = true) :
    as ++ x ≠ bs ++ y := by
  intro heq
  have hnone := dropPrefix?_of_clash as bs y h
  rw [← heq, List.dropPrefix?_append_of_beq _ (by simp)] at hnone
  exact absurd hnone (by simp)

/-- A line that ends otherwise is of another kind. -/
theorem between?_of_clash_end (head tail start ending : String)
    (h : clash tail.toList.reverse ending.toList.reverse = true) :
    between? head tail (start ++ ending) = none := by
  unfold between?
  cases hdrop : ((start ++ ending).toList.dropWhile (· == ' ')).dropPrefix? head.toList with
  | none => rfl
  | some rest =>
    rw [Option.bind_some, Option.map_eq_none_iff]
    by_contra hsome
    obtain ⟨text, htext⟩ := Option.ne_none_iff_exists'.mp hsome
    obtain ⟨tail', hrest, htail⟩ := List.dropSuffix?_eq_some_iff.mp htext
    obtain ⟨head', hline, -⟩ := List.dropPrefix?_eq_some_iff.mp hdrop
    -- The line is its blanks, the head, the text and the tail.
    have hwhole : (start ++ ending).toList =
        ((start ++ ending).toList.takeWhile (· == ' ') ++ head' ++ text) ++ tail.toList := by
      rw [← eq_of_beq htail, List.append_assoc, List.append_assoc, ← hrest, ← hline,
        List.takeWhile_append_dropWhile]
    rw [String.toList_append] at hwhole
    have hreverse := congrArg List.reverse hwhole
    rw [List.reverse_append, List.reverse_append] at hreverse
    exact append_ne_of_clash _ _ _ _ h hreverse.symm

end Listing

namespace Naming

/-- A text of such characters has no blank and no mark in it. -/
theorem ArePlain.not_mem {cs : List Char} (h : ArePlain cs) (c : Char)
    (hc : continuesIdentifier c = false) : c ∉ cs := by
  intro hmem
  rw [h c hmem] at hc
  exact absurd hc (by decide)

end Naming

namespace Members

open Listing Naming

/-- What is read of a class line by line is found in its members only. -/
structure IsReader {α : Type*} (r : String → Option α) : Prop extends Listing.IsReader r where
  package : ∀ rest, r ("package " ++ rest) = none
  imports : ∀ rest, r ("import " ++ rest) = none
  comment : ∀ rest, r (" *" ++ rest) = none
  comment_start : r "/**" = none
  annotation : ∀ rest, r ("@" ++ rest) = none
  head : ∀ name, r ("public class " ++ (name ++ (" implements Serializable" ++ " \x7b"))) = none
  close : ∀ rest, r ("\x7d" ++ rest) = none

theorem IsReader.bind {α β : Type*} {r : String → Option α} (hr : IsReader r) (g : α → Option β) :
    IsReader fun line => (r line).bind g := by
  have hnone : ∀ line, r line = none → (r line).bind g = none := by
    intro line h
    rw [h]
    rfl
  exact {
    blank := hnone "" hr.blank
    step_in := fun line => congrArg (Option.bind · g) (hr.step_in line)
    package := fun rest => hnone _ (hr.package rest)
    imports := fun rest => hnone _ (hr.imports rest)
    comment := fun rest => hnone _ (hr.comment rest)
    comment_start := hnone _ hr.comment_start
    annotation := fun rest => hnone _ (hr.annotation rest)
    head := fun name => hnone _ (hr.head name)
    close := fun rest => hnone _ (hr.close rest) }

/-- What is read as a field is read within a line. -/
theorem isReader_field? : IsReader field? := by
  have hbetween : IsReader (between? "private " ";") := {
    isReader_between "private " ";" (by decide) with
    package := fun rest => between?_of_clash _ _ "package " rest (by decide)
    imports := fun rest => between?_of_clash _ _ "import " rest (by decide)
    comment := fun rest => between?_of_clash _ _ " *" rest (by decide)
    comment_start := between?_of_clash _ _ "/**" "" (by decide)
    annotation := fun rest => between?_of_clash _ _ "@" rest (by decide)
    head := fun name => between?_of_clash _ _ "public class " _ (by decide)
    close := fun rest => between?_of_clash _ _ "\x7d" rest (by decide) }
  exact hbetween.bind _

theorem isReader_method? : IsReader method? := by
  have hbetween : IsReader (between? "public " ") \x7b") := {
    isReader_between "public " ") \x7b" (by decide) with
    package := fun rest => between?_of_clash _ _ "package " rest (by decide)
    imports := fun rest => between?_of_clash _ _ "import " rest (by decide)
    comment := fun rest => between?_of_clash _ _ " *" rest (by decide)
    comment_start := between?_of_clash _ _ "/**" "" (by decide)
    annotation := fun rest => between?_of_clash _ _ "@" rest (by decide)
    head := fun name => by
      -- The head of the class begins as that of a method but ends otherwise.
      rw [← String.append_assoc]
      exact between?_of_clash_end _ _ _ (" implements Serializable" ++ " \x7b") (by decide)
    close := fun rest => between?_of_clash _ _ "\x7d" rest (by decide) }
  exact hbetween.bind _

structure IsPlainWord (s : String) : Prop where
  plain : ArePlain s.toList
  ne_empty : s ≠ ""

theorem isPlainWord_of_isIdentifier (s : String) (h : isIdentifier s = true) : IsPlainWord s where
  plain := arePlain_of_isIdentifier s h
  ne_empty := by
    rintro rfl
    exact absurd h (by decide)

theorem isPlainWord_javaType (s : SemanticType) : IsPlainWord s.javaType := by
  cases s <;> exact isPlainWord_of_isIdentifier _ (by decide)

theorem IsPlainWord.after {s : String} (h : IsPlainWord s) (t : String) (ht : ArePlain t.toList) :
    IsPlainWord (t ++ s) where
  plain := by
    rw [String.toList_append]
    exact List.forall_mem_append.mpr ⟨ht, h.plain⟩
  ne_empty := by
    intro heq
    have hlist := congrArg String.toList heq
    rw [String.toList_append] at hlist
    have hs : s.toList = [] := (List.append_eq_nil_iff.mp hlist).2
    exact h.ne_empty (by simpa using hs)

theorem words_plain (s : String) (h : IsPlainWord s) : words s.toList = [s.toList] :=
  words_word s.toList (h.plain.not_mem ' ' (by decide)) (by simpa using h.ne_empty)

/-- Two words with a blank between them are read as two. -/
theorem words_pair (s t : String) (hs : IsPlainWord s) (ht : IsPlainWord t) :
    words (s.toList ++ ' ' :: t.toList) = [s.toList, t.toList] := by
  rw [words_append, words_plain s hs, words_plain t ht]
  rfl

theorem not_mem_pair (s t : String) (hs : IsPlainWord s) (ht : IsPlainWord t) (mark : Char)
    (hmark : continuesIdentifier mark = false) (hblank : mark ≠ ' ') :
    mark ∉ s.toList ++ ' ' :: t.toList := by
  have hs' := hs.plain.not_mem mark hmark
  have ht' := ht.plain.not_mem mark hmark
  simp [hs', ht', hblank]

theorem takeWhile_upto (cs rest : List Char) (mark : Char) (h : mark ∉ cs) :
    (cs ++ mark :: rest).takeWhile (· ≠ mark) = cs := by
  have hall : ∀ c ∈ cs, decide (c ≠ mark) = true := by
    intro c hc
    rw [decide_eq_true_eq]
    rintro rfl
    exact h hc
  rw [List.takeWhile_append_of_pos hall]
  simp

theorem dropWhile_upto (cs rest : List Char) (mark : Char) (h : mark ∉ cs) :
    (cs ++ mark :: rest).dropWhile (· ≠ mark) = mark :: rest := by
  have hall : ∀ c ∈ cs, decide (c ≠ mark) = true := by
    intro c hc
    rw [decide_eq_true_eq]
    rintro rfl
    exact h hc
  rw [List.dropWhile_append_of_pos hall]
  simp

/-- A declaration is read as the field that it declares. -/
theorem field?_declaration (type name : String) (ht : IsPlainWord type) (hn : IsPlainWord name) :
    field? (declaration type name) = some name := by
  have hline : declaration type name = "private " ++ (type ++ " " ++ name) ++ ";" := by
    simp only [declaration, String.append_assoc]
  have hbetween : between? "private " ";" (declaration type name) =
      some (type ++ " " ++ name) := by
    rw [hline]
    exact between?_self _ _ _ (by decide) (by decide)
  have hchars : (type ++ " " ++ name).toList = type.toList ++ ' ' :: name.toList := by simp
  -- Neither the type nor the name is cut off where a value would begin.
  have hwhole : (type.toList ++ ' ' :: name.toList).takeWhile (· ≠ '=') =
      type.toList ++ ' ' :: name.toList := by
    rw [List.takeWhile_eq_self_iff]
    intro c hc
    rw [decide_eq_true_eq]
    rintro rfl
    exact not_mem_pair type name ht hn '=' (by decide) (by decide) hc
  rw [field?, hbetween, Option.bind_some, hchars, hwhole, words_pair type name ht hn]
  simp

/-- A signature is read up to its closing bracket. -/
theorem signature?_eq (result name parameters : String) (hr : IsPlainWord result)
    (hn : IsPlainWord name) :
    signature? (result ++ " " ++ name ++ "(" ++ parameters) =
      some ⟨result, name, (parameters.toList.splitOn ',').filterMap parameter?⟩ := by
  have hchars : (result ++ " " ++ name ++ "(" ++ parameters).toList =
      (result.toList ++ ' ' :: name.toList) ++ '(' :: parameters.toList := by simp
  have hbracket := not_mem_pair result name hr hn '(' (by decide) (by decide)
  rw [signature?, hchars, takeWhile_upto _ _ _ hbracket, dropWhile_upto _ _ _ hbracket,
    words_pair result name hr hn]
  simp

theorem parameter?_pair (type name : String) (ht : IsPlainWord type) (hn : IsPlainWord name) :
    ((type ++ " " ++ name).toList.splitOn ',').filterMap parameter? = [(type, name)] := by
  have hchars : (type ++ " " ++ name).toList = type.toList ++ ' ' :: name.toList := by simp
  have hsplit : (type.toList ++ ' ' :: name.toList).splitOn ',' =
      [type.toList ++ ' ' :: name.toList] :=
    List.splitOnP_eq_singleton fun c hc => by
      rw [beq_eq_false_iff_ne]
      rintro rfl
      exact not_mem_pair type name ht hn ',' (by decide) (by decide) hc
  have hpair : parameter? (type.toList ++ ' ' :: name.toList) = some (type, name) := by
    rw [parameter?, words_pair type name ht hn]
    simp
  rw [hchars, hsplit]
  simp [hpair]

def getterSignature (type accessor : String) : Signature := ⟨type, "get" ++ accessor, []⟩

def setterSignature (type name accessor : String) : Signature :=
  ⟨"void", "set" ++ accessor, [(type, name)]⟩

section Accessors

variable (type name accessor : String) (ht : IsPlainWord type) (hn : IsPlainWord name)
  (ha : IsPlainWord accessor)

include ht ha in
/-- A getter is read as the method that it is. -/
theorem methods_getter :
    (getter type name accessor).filterMap method? = [getterSignature type accessor] := by
  have hopen : ("()" ++ " \x7b" : String) = "(" ++ ") \x7b" := by decide
  have hline : "public " ++ type ++ " get" ++ accessor ++ "()" ++ " \x7b" =
      "public " ++ (type ++ " " ++ ("get" ++ accessor) ++ "(" ++ "") ++ ") \x7b" := by
    have hget : (" get" : String) = " " ++ "get" := by decide
    simp only [hget, String.append_assoc, hopen, String.empty_append]
  have hhead : method? ("public " ++ type ++ " get" ++ accessor ++ "()" ++ " \x7b") =
      some (getterSignature type accessor) := by
    rw [method?, hline, between?_self _ _ _ (by decide) (by decide), Option.bind_some,
      signature?_eq type ("get" ++ accessor) "" ht (ha.after "get" (arePlain_of_isIdentifier _
        (by decide)))]
    rfl
  have hbody : method? ("return " ++ name ++ ";") = none := by
    rw [String.append_assoc, method?, between?_of_clash _ _ "return " _ (by decide)]
    rfl
  have hclose : method? "\x7d" = none := isReader_method?.close ""
  simp only [getter, braced, List.filterMap_append, filterMap_indented
    isReader_method?.toIsReader]
  simp [hhead, hbody, hclose]

include ht hn ha in
/-- A setter is read as the method that it is. -/
theorem methods_setter :
    (setter type name accessor).filterMap method? = [setterSignature type name accessor] := by
  -- The head of a setter, cut where that of a method is.
  have hline : "public void set" ++ accessor ++ "(" ++ type ++ " " ++ name ++ ")" ++ " \x7b" =
      "public " ++ ("void" ++ " " ++ ("set" ++ accessor) ++ "(" ++ (type ++ " " ++ name)) ++
        ") \x7b" := by
    have hset : ("public void set" : String) = "public " ++ ("void" ++ (" " ++ "set")) := by decide
    have hclose : (") \x7b" : String) = ")" ++ " \x7b" := by decide
    simp only [hset, hclose, String.append_assoc]
  have hhead : method? ("public void set" ++ accessor ++ "(" ++ type ++ " " ++ name ++ ")" ++
      " \x7b") = some (setterSignature type name accessor) := by
    rw [method?, hline, between?_self _ _ _ (by decide) (by decide), Option.bind_some,
      signature?_eq "void" ("set" ++ accessor) _ (isPlainWord_of_isIdentifier _ (by decide))
        (ha.after "set" (arePlain_of_isIdentifier _ (by decide))),
      parameter?_pair type name ht hn]
    rfl
  have hbody : method? ("this." ++ name ++ " = " ++ name ++ ";") = none := by
    simp only [String.append_assoc]
    rw [method?, between?_of_clash _ _ "this." _ (by decide)]
    rfl
  have hclose : method? "\x7d" = none := isReader_method?.close ""
  simp only [setter, braced, List.filterMap_append, filterMap_indented
    isReader_method?.toIsReader]
  simp [hhead, hbody, hclose]

theorem fieldNames_getter : (getter type name accessor).filterMap field? = [] := by
  have hhead : field? ("public " ++ type ++ " get" ++ accessor ++ "()" ++ " \x7b") = none := by
    simp only [String.append_assoc]
    rw [field?, between?_of_clash _ _ "public " _ (by decide)]
    rfl
  have hbody : field? ("return " ++ name ++ ";") = none := by
    rw [String.append_assoc, field?, between?_of_clash _ _ "return " _ (by decide)]
    rfl
  rw [getter, filterMap_braced isReader_field?.toIsReader _ _ _ hhead (isReader_field?.close "")]
  simp [hbody]

theorem fieldNames_setter : (setter type name accessor).filterMap field? = [] := by
  have hhead : field? ("public void set" ++ accessor ++ "(" ++ type ++ " " ++ name ++ ")" ++
      " \x7b") = none := by
    simp only [String.append_assoc]
    rw [field?, between?_of_clash _ _ "public void set" _ (by decide)]
    rfl
  have hbody : field? ("this." ++ name ++ " = " ++ name ++ ";") = none := by
    simp only [String.append_assoc]
    rw [field?, between?_of_clash _ _ "this." _ (by decide)]
    rfl
  rw [setter, filterMap_braced isReader_field?.toIsReader _ _ _ hhead (isReader_field?.close "")]
  simp [hbody]

end Accessors

theorem method?_declaration (type name : String) : method? (declaration type name) = none := by
  simp only [declaration, String.append_assoc]
  rw [method?, between?_of_clash _ _ "private " _ (by decide)]
  rfl

end Members
end CrudLayer
