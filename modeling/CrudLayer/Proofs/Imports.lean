import Mathlib
import CrudLayer.Proofs.FileTexts

namespace CrudLayer

namespace Listing

def upTo? (head : String) (mark : Char) (line : String) : Option String :=
  (line.toList.dropPrefix? head.toList).map fun rest => String.ofList (rest.takeWhile (· ≠ mark))

def import? : String → Option String := upTo? "import " ';'

/-- The names that a text imports, in order. -/
def imports (text : String) : List String := (lines text).filterMap import?

def declared? (line : String) : Option String :=
  upTo? "public class " ' ' line <|> upTo? "public interface " ' ' line

/-- The types that a text declares, in order. -/
def declared (text : String) : List String := (lines text).filterMap declared?

def lastPart (cs : List Char) : List Char := (cs.reverse.takeWhile (· ≠ '.')).reverse

def simpleName (name : String) : String := String.ofList (lastPart name.toList)

/-- The names of types that a text brings in one by one. -/
def importedTypes (text : String) : List String :=
  ((imports text).map simpleName).filter (· ≠ "*")

theorem upTo?_of_clash (head : String) (mark : Char) (start rest : String)
    (h : clash head.toList start.toList = true) : upTo? head mark (start ++ rest) = none := by
  rw [upTo?, String.toList_append, dropPrefix?_of_clash _ _ _ h]
  rfl

theorem upTo?_self (head text tail : String) (mark : Char) (h : mark ∉ text.toList)
    (htail : tail.toList.head? = some mark) :
    upTo? head mark (head ++ text ++ tail) = some text := by
  obtain ⟨rest, hrest⟩ := List.head?_eq_some_iff.mp htail
  have hchars : (head ++ text ++ tail).toList = head.toList ++ (text.toList ++ mark :: rest) := by
    simp [hrest]
  rw [upTo?, hchars, List.dropPrefix?_append_of_beq _ (by simp), Option.map_some,
    Members.takeWhile_upto _ _ _ h, String.ofList_toList]

theorem lastPart_append (cs name : List Char) (h : '.' ∉ name) :
    lastPart (cs ++ '.' :: name) = name := by
  have hreverse : (cs ++ '.' :: name).reverse = name.reverse ++ '.' :: cs.reverse := by simp
  rw [lastPart, hreverse, Members.takeWhile_upto _ _ _ (by simpa using h), List.reverse_reverse]

/-- A qualified name ends in the name of its type. -/
theorem simpleName_qualified (package name : String) (h : '.' ∉ name.toList) :
    simpleName (package ++ "." ++ name) = name := by
  have hchars : (package ++ "." ++ name).toList = package.toList ++ '.' :: name.toList := by simp
  rw [simpleName, hchars, lastPart_append _ _ h, String.ofList_toList]

/-- What the reader finds, it finds where lines begin, and not in comments, annotations or
brackets. -/
structure IsOuterReader {α : Type*} (r : String → Option α) : Prop where
  blank : r "" = none
  inner : ∀ rest, r (" " ++ rest) = none
  comment : ∀ rest, r ("/" ++ rest) = none
  annotation : ∀ rest, r ("@" ++ rest) = none
  close : ∀ rest, r ("\x7d" ++ rest) = none

theorem isOuterReader_upTo? (head : String) (mark : Char)
    (h : [" ", "/", "@", "\x7d"].all (clash head.toList ·.toList) = true) :
    IsOuterReader (upTo? head mark) := by
  simp only [List.all_cons, List.all_nil, Bool.and_true, Bool.and_eq_true] at h
  obtain ⟨hblank, hcomment, hannotation, hclose⟩ := h
  refine ⟨?_, ?_, ?_, ?_, ?_⟩
  · obtain ⟨c, cs, hcs⟩ : ∃ c cs, head.toList = c :: cs := by
      apply List.exists_cons_of_ne_nil
      intro hnil
      rw [hnil] at hblank
      exact absurd hblank (by simp [clash])
    simp [upTo?, hcs, List.dropPrefix?]
  · exact fun rest => upTo?_of_clash head mark " " rest hblank
  · exact fun rest => upTo?_of_clash head mark "/" rest hcomment
  · exact fun rest => upTo?_of_clash head mark "@" rest hannotation
  · exact fun rest => upTo?_of_clash head mark "\x7d" rest hclose

/-- Imports are read at the beginning of lines only. -/
theorem isOuterReader_import? : IsOuterReader import? :=
  isOuterReader_upTo? _ _ (by decide)

/-- So are the types that a text declares. -/
theorem isOuterReader_declared? : IsOuterReader declared? := by
  have hclass := isOuterReader_upTo? "public class " ' ' (by decide)
  have hinterface := isOuterReader_upTo? "public interface " ' ' (by decide)
  refine ⟨?_, ?_, ?_, ?_, ?_⟩
  · simp [declared?, hclass.blank, hinterface.blank]
  · simp [declared?, hclass.inner, hinterface.inner]
  · simp [declared?, hclass.comment, hinterface.comment]
  · simp [declared?, hclass.annotation, hinterface.annotation]
  · simp [declared?, hclass.close, hinterface.close]

section Outer

variable {α : Type*} {r : String → Option α} (hr : IsOuterReader r)

include hr

/-- What stands further in is not looked at. -/
theorem IsOuterReader.filterMap_indented (ls : Listing) : (indented ls).filterMap r = [] := by
  apply List.filterMap_eq_nil_iff.mpr
  intro l hl
  obtain ⟨line, -, rfl⟩ := List.mem_map.mp hl
  split
  · rename_i hempty
    rw [String.isEmpty_iff.mp hempty]
    exact hr.blank
  · have hstep : ("    " : String) = " " ++ "   " := rfl
    rw [hstep, String.append_assoc]
    exact hr.inner _

/-- Annotations are passed over, whatever is in them. -/
theorem IsOuterReader.filterMap_annotations (ls : Listing)
    (h : ∀ l ∈ ls, ∃ rest, l = "@" ++ rest) : ls.filterMap r = [] := by
  apply List.filterMap_eq_nil_iff.mpr
  intro l hl
  obtain ⟨rest, rfl⟩ := h l hl
  exact hr.annotation rest

theorem IsOuterReader.filterMap_documentation (ls : Listing) :
    (documentation ls).filterMap r = [] := by
  apply Listing.filterMap_documentation
  · exact hr.comment "**"
  · intro rest
    have hstar : (" *" : String) = " " ++ "*" := rfl
    rw [hstar, String.append_assoc]
    exact hr.inner _

end Outer

/-- What stands below the head of a declaration: nothing, or a body and its closing bracket. -/
def IsBelowHead (ls : Listing) : Prop := ls = [] ∨ ∃ body, ls = indented body ++ ["\x7d"]

/-- Below the head of a declaration nothing is found. -/
theorem IsOuterReader.filterMap_belowHead {α : Type*} {r : String → Option α}
    (hr : IsOuterReader r) (ls : Listing) (h : IsBelowHead ls) : ls.filterMap r = [] := by
  have hclose : r "\x7d" = none := hr.close ""
  rcases h with rfl | ⟨body, rfl⟩
  · rfl
  · rw [List.filterMap_append, hr.filterMap_indented]
    simp [hclose]

/-- What a file imports is what it was put together with. -/
theorem filterMap_file_imports (package : String) (imports : List String) (declaration : Listing)
    (himports : ∀ i ∈ imports, ';' ∉ i.toList) (hrest : declaration.filterMap import? = []) :
    (file package imports declaration).filterMap import? = imports := by
  have hpackage : import? ("package " ++ package ++ ";") = none := by
    rw [String.append_assoc]
    exact upTo?_of_clash _ _ "package " _ (by decide)
  have hlines : (imports.map fun i => "import " ++ i ++ ";").filterMap import? = imports := by
    rw [List.filterMap_map]
    calc imports.filterMap (import? ∘ fun i => "import " ++ i ++ ";")
        = imports.filterMap some := List.filterMap_congr fun i hi =>
          upTo?_self "import " i ";" ';' (himports i hi) rfl
      _ = imports := List.filterMap_some
  rw [file, List.filterMap_append, List.filterMap_append, List.filterMap_append, hlines, hrest]
  simp [hpackage, isOuterReader_import?.blank]

/-- A file declares what its declaration does. -/
theorem filterMap_file_declared (package : String) (imports : List String) (declaration : Listing) :
    (file package imports declaration).filterMap declared? = declaration.filterMap declared? := by
  have hother : ∀ start rest : String, clash "public class ".toList start.toList = true →
      clash "public interface ".toList start.toList = true → declared? (start ++ rest) = none := by
    intro start rest hclass hinterface
    rw [declared?, upTo?_of_clash _ _ _ _ hclass, upTo?_of_clash _ _ _ _ hinterface]
    rfl
  have hpackage : declared? ("package " ++ package ++ ";") = none := by
    rw [String.append_assoc]
    exact hother "package " _ (by decide) (by decide)
  have hlines : (imports.map fun i => "import " ++ i ++ ";").filterMap declared? = [] := by
    rw [List.filterMap_map]
    refine List.filterMap_eq_nil_iff.mpr fun i _ => ?_
    rw [Function.comp_apply, String.append_assoc]
    exact hother "import " _ (by decide) (by decide)
  rw [file, List.filterMap_append, List.filterMap_append, List.filterMap_append, hlines]
  simp [hpackage, isOuterReader_declared?.blank]

end Listing

namespace ArtifactKind

open Listing

/-- The kinds whose generated types a file of a kind imports, in order. -/
def dependencies : ArtifactKind → List ArtifactKind
  | entity | transferObject => []
  | serviceInterface => [transferObject]
  | serviceImplementation => [entity, mapper, repository, serviceInterface, transferObject]
  | resourceHandler => [repository, serviceInterface, transferObject]
  | repository => [entity]
  | mapper => [entity, transferObject]

/-- What a file of a kind imports from elsewhere. -/
def otherImports (basePackage : String) : ArtifactKind → List String
  | entity => ["jakarta.persistence.*", "java.io.Serializable"]
  | transferObject => ["java.io.Serializable"]
  | serviceInterface => [
    "java.util.Optional", "org.springframework.data.domain.Page",
    "org.springframework.data.domain.Pageable"]
  | serviceImplementation => [
    "java.util.Optional", "org.slf4j.Logger", "org.slf4j.LoggerFactory",
    "org.springframework.data.domain.Page", "org.springframework.data.domain.Pageable",
    "org.springframework.stereotype.Service",
    "org.springframework.transaction.annotation.Transactional"]
  | resourceHandler => [
    basePackage ++ ".web.rest.errors.BadRequestAlertException",
    "java.net.URI", "java.net.URISyntaxException", "java.util.List", "java.util.Objects",
    "java.util.Optional", "org.slf4j.Logger", "org.slf4j.LoggerFactory",
    "org.springframework.beans.factory.annotation.Value", "org.springframework.data.domain.Page",
    "org.springframework.data.domain.Pageable", "org.springframework.http.HttpHeaders",
    "org.springframework.http.ResponseEntity", "org.springframework.web.bind.annotation.*",
    "org.springframework.web.servlet.support.ServletUriComponentsBuilder",
    "tech.jhipster.web.util.HeaderUtil", "tech.jhipster.web.util.PaginationUtil",
    "tech.jhipster.web.util.ResponseUtil"]
  | repository => [
    "org.springframework.data.jpa.repository.JpaRepository",
    "org.springframework.stereotype.Repository"]
  | mapper => [
    "java.util.List", "org.mapstruct.BeanMapping", "org.mapstruct.Mapper",
    "org.mapstruct.MappingTarget", "org.mapstruct.Named",
    "org.mapstruct.NullValuePropertyMappingStrategy"]

/-- The base package stands before the first import of the resource only. -/
theorem otherImports_cases (k : ArtifactKind) (basePackage : String) :
    k.otherImports basePackage = k.otherImports "" ∨
      k.otherImports basePackage =
        (basePackage ++ ".web.rest.errors.BadRequestAlertException") ::
          (resourceHandler.otherImports "").tail ∧ k = .resourceHandler := by
  cases k
  case resourceHandler => exact Or.inr ⟨rfl, rfl⟩
  all_goals exact Or.inl rfl

def importCharacters (k : ArtifactKind) :
    { css : List (List Char) // characters (k.otherImports "") = css } := by
  have hempty : ("" : String).toList = [] := toList_fixed rfl
  cases k
  all_goals
    constructor
    case property =>
      apply Eq.trans
      · delta otherImports
        simp (disch := with_reducible rfl) only [characters_cons, characters_nil,
          ↓String.toList_append, hempty, List.nil_append, toList_fixed]
        rfl
      · rfl

theorem characters_otherImports (k : ArtifactKind) :
    characters (k.otherImports "") = k.importCharacters.val := k.importCharacters.property

theorem no_semicolon_otherImports (k : ArtifactKind) (basePackage : String)
    (h : ';' ∉ basePackage.toList) : ∀ i ∈ k.otherImports basePackage, ';' ∉ i.toList := by
  have hfixed (j : ArtifactKind) : ∀ i ∈ j.otherImports "", ';' ∉ i.toList := by
    have hall : ∀ cs ∈ characters (j.otherImports ""), ';' ∉ cs := by
      rw [j.characters_otherImports]
      cases j <;> decide
    exact fun i hi => hall i.toList (List.mem_map_of_mem hi)
  rcases k.otherImports_cases basePackage with heq | ⟨heq, -⟩
  · rw [heq]
    exact hfixed k
  · rw [heq, List.forall_mem_cons, String.toList_append, List.mem_append, not_or]
    exact ⟨⟨h, by decide⟩, fun i hi => hfixed _ i (List.mem_of_mem_tail hi)⟩

/-- A file is its package, its imports and a declaration of one type, with annotations and a comment
before the line that names the type. -/
structure IsLaidOut (k : ArtifactKind) (ctx : Context) (description annotations : Listing)
    (keyword tail : String) (below : Listing) : Prop where
  listing_eq : k.listing ctx =
    file (ctx.package k) (k.dependencies.map ctx.qualifiedName ++ k.otherImports ctx.basePackage)
      (documentation description ++ annotations ++ [keyword ++ ctx.typeName k ++ tail] ++ below)
  annotations : ∀ a ∈ annotations, ∃ rest, a = "@" ++ rest
  keyword : keyword = "public class " ∨ keyword = "public interface "
  tail : tail.toList.head? = some ' '
  below : Listing.IsBelowHead below

theorem isLaidOut_braced (k : ArtifactKind) (ctx : Context) (description annotations : Listing)
    (keyword head tail : String) (body : Listing)
    (hlisting : k.listing ctx =
      file (ctx.package k) (k.dependencies.map ctx.qualifiedName ++ k.otherImports ctx.basePackage)
        (documentation description ++ annotations ++ braced head body ""))
    (hhead : head ++ " \x7b" = keyword ++ ctx.typeName k ++ tail)
    (hannotations : ∀ a ∈ annotations, ∃ rest, a = "@" ++ rest)
    (hkeyword : keyword = "public class " ∨ keyword = "public interface ")
    (htail : tail.toList.head? = some ' ') :
    IsLaidOut k ctx description annotations keyword tail (indented body ++ ["\x7d"]) where
  listing_eq := by
    have hclose : ("\x7d" ++ "" : String) = "\x7d" := rfl
    rw [hlisting, braced, hhead, hclose]
    simp only [List.append_assoc]
  annotations := hannotations
  keyword := hkeyword
  tail := htail
  below := Or.inr ⟨body, rfl⟩

/-- Every file is its package, its imports and one declaration. -/
theorem exists_isLaidOut (k : ArtifactKind) (ctx : Context) :
    ∃ description annotations keyword tail below,
      IsLaidOut k ctx description annotations keyword tail below := by
  -- An annotation begins with its sign, whatever is filled in after it.
  have hannotation : ∀ start text rest : String,
      ∃ r, "@" ++ start ++ text ++ rest = "@" ++ r := by
    intro start text rest
    exact ⟨start ++ text ++ rest, by simp only [String.append_assoc]⟩
  cases k
  case entity =>
    refine ⟨_, _, _, _, _, isLaidOut_braced .entity ctx _
      ["@Entity", "@" ++ "Table(name = \"" ++ ctx.tableName ++ "\")"] "public class " _
      (" implements Serializable" ++ " \x7b") _ rfl (String.append_assoc ..) ?_ (Or.inl rfl)
      (by decide)⟩
    simp only [List.forall_mem_cons]
    exact ⟨⟨"Entity", rfl⟩, hannotation _ _ _, by simp⟩
  case transferObject =>
    exact ⟨_, _, _, _, _, isLaidOut_braced .transferObject ctx _ [] "public class " _
      (" implements Serializable" ++ " \x7b") _ (by rw [List.append_nil]; rfl)
      (String.append_assoc ..) (by simp) (Or.inl rfl) (by decide)⟩
  case serviceInterface =>
    exact ⟨_, _, _, _, _, isLaidOut_braced .serviceInterface ctx _ [] "public interface " _
      " \x7b" _ (by rw [List.append_nil]; rfl) rfl (by simp) (Or.inr rfl) (by decide)⟩
  case serviceImplementation =>
    refine ⟨_, _, _, _, _, isLaidOut_braced .serviceImplementation ctx _
      ["@Service", "@Transactional"] "public class " _
      (" implements " ++ (ctx.typeName .serviceInterface ++ " \x7b")) _ rfl ?_ ?_ (Or.inl rfl) ?_⟩
    · simp only [String.append_assoc]
    · simp only [List.forall_mem_cons]
      exact ⟨⟨"Service", rfl⟩, ⟨"Transactional", rfl⟩, by simp⟩
    · rw [String.toList_append]
      rfl
  case resourceHandler =>
    refine ⟨_, _, _, _, _, isLaidOut_braced .resourceHandler ctx _
      ["@RestController", "@" ++ "RequestMapping(\"" ++ ctx.apiPath ++ "\")"] "public class " _
      " \x7b" _ rfl rfl ?_ (Or.inl rfl) (by decide)⟩
    simp only [List.forall_mem_cons]
    exact ⟨⟨"RestController", rfl⟩, hannotation _ _ _, by simp⟩
  case repository =>
    -- The body is empty, so it is closed on the line on which the declaration begins.
    refine ⟨["Spring Data JPA repository for the " ++ ctx.typeName .entity ++ " entity."],
      ["@Repository"], "public interface ",
      " extends JpaRepository<" ++ (ctx.typeName .entity ++ (", Long> " ++ empty)), [], ?_, ?_,
      Or.inr rfl, ?_, Or.inl rfl⟩
    · simp only [listing, Repository.listing, List.append_nil, List.append_assoc,
        List.singleton_append, String.append_assoc]
      rfl
    · simp only [List.forall_mem_cons]
      exact ⟨⟨"Repository", rfl⟩, by simp⟩
    · rw [String.toList_append]
      rfl
  case mapper =>
    refine ⟨_, _, _, _, _, isLaidOut_braced .mapper ctx _
      ["@Mapper(componentModel = \"spring\")"] "public interface " _ " \x7b" _ rfl rfl ?_
      (Or.inr rfl) (by decide)⟩
    simp only [List.forall_mem_cons]
    exact ⟨⟨"Mapper(componentModel = \"spring\")", rfl⟩, by simp⟩

end ArtifactKind

section Accepted

open Listing

variable (t : Table) (c : Config) (ht : t.checkNames = .ok ())
  (hc : Config.checkPackage c.basePackage = .ok ()) (k : ArtifactKind)

include ht hc

theorem no_semicolon_qualifiedName :
    ';' ∉ ((Context.ofTable t c).qualifiedName k).toList := by
  have hinert := Context.isInert_ofTable t c ht hc
  have hnot (s : String) (hs : IsInertText s) : ';' ∉ s.toList :=
    hs.not_mem ';' (by decide) (by decide) (by decide)
  have hlayer : ';' ∉ (".".intercalate k.layer).toList := by
    cases k <;> decide
  have hsuffix : ';' ∉ k.suffix.toList := by
    cases k <;> decide
  rw [Context.qualifiedName, Context.package, ArtifactKind.package, Context.typeName,
    ArtifactKind.typeName]
  simp only [String.toList_append, List.mem_append, not_or]
  exact ⟨⟨⟨⟨hnot _ hinert.package, by decide⟩, hlayer⟩, by decide⟩, hnot _ hinert.entity, hsuffix⟩

/-- The imports of a file, as they are read from its text. -/
theorem imports_content :
    imports (k.content (Context.ofTable t c)) =
      k.dependencies.map (Context.ofTable t c).qualifiedName ++
        k.otherImports (Context.ofTable t c).basePackage := by
  obtain ⟨description, annotations, keyword, tail, below, h⟩ :=
    k.exists_isLaidOut (Context.ofTable t c)
  have hr := isOuterReader_import?
  have hbase : ';' ∉ (Context.ofTable t c).basePackage.toList :=
    (Context.isInert_ofTable t c ht hc).package.not_mem ';' (by decide) (by decide) (by decide)
  have hhead : import? (keyword ++ (Context.ofTable t c).typeName k ++ tail) = none := by
    rw [String.append_assoc]
    rcases h.keyword with rfl | rfl
    · exact upTo?_of_clash _ _ "public class " _ (by decide)
    · exact upTo?_of_clash _ _ "public interface " _ (by decide)
  rw [imports, lines_content t c ht hc k, h.listing_eq]
  apply filterMap_file_imports
  · intro i hi
    rcases List.mem_append.mp hi with hi | hi
    · obtain ⟨j, -, rfl⟩ := List.mem_map.mp hi
      exact no_semicolon_qualifiedName t c ht hc j
    · exact k.no_semicolon_otherImports _ hbase i hi
  · rw [List.filterMap_append, List.filterMap_append, List.filterMap_append,
      hr.filterMap_documentation, hr.filterMap_annotations _ h.annotations,
      hr.filterMap_belowHead _ h.below]
    simp [hhead]

/-- A file declares the type of its kind and no other. -/
theorem declared_content :
    declared (k.content (Context.ofTable t c)) = [(Context.ofTable t c).typeName k] := by
  obtain ⟨description, annotations, keyword, tail, below, h⟩ :=
    k.exists_isLaidOut (Context.ofTable t c)
  have hr := isOuterReader_declared?
  have hname : ' ' ∉ ((Context.ofTable t c).typeName k).toList := by
    have hnot : ' ' ∉ (Context.ofTable t c).entityName.toList :=
      (Context.isInert_ofTable t c ht hc).entity.not_mem ' ' (by decide) (by decide) (by decide)
    have hsuffix : ' ' ∉ k.suffix.toList := by
      cases k <;> decide
    simp [Context.typeName, ArtifactKind.typeName, hnot, hsuffix]
  have hhead : declared? (keyword ++ (Context.ofTable t c).typeName k ++ tail) =
      some ((Context.ofTable t c).typeName k) := by
    rw [declared?]
    rcases h.keyword with rfl | rfl
    · rw [upTo?_self _ _ _ _ hname h.tail]
      rfl
    · have hclass : upTo? "public class " ' ' ("public interface " ++
          (Context.ofTable t c).typeName k ++ tail) = none := by
        rw [String.append_assoc]
        exact upTo?_of_clash _ _ "public interface " _ (by decide)
      rw [hclass, upTo?_self _ _ _ _ hname h.tail]
      rfl
  rw [declared, lines_content t c ht hc k, h.listing_eq, filterMap_file_declared,
    List.filterMap_append, List.filterMap_append, List.filterMap_append,
    hr.filterMap_documentation, hr.filterMap_annotations _ h.annotations,
    hr.filterMap_belowHead _ h.below]
  simp [hhead]

end Accepted

end CrudLayer
