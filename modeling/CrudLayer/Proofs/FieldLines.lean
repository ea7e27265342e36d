import Mathlib
import CrudLayer.Proofs.ClassLines

namespace CrudLayer

namespace Listing

/-- What stands in a line between exactly this head and this tail. -/
def framed? (head tail line : String) : Option String :=
  ((line.toList.dropPrefix? head.toList).bind (·.dropSuffix? tail.toList)).map String.ofList

/-- Nothing but the text stands between the head and the tail. -/
theorem framed?_eq_some_iff (head tail line text : String) :
    framed? head tail line = some text ↔ line = head ++ text ++ tail := by
  constructor
  · intro h
    obtain ⟨cs, hcs, rfl⟩ := Option.map_eq_some_iff.mp h
    obtain ⟨rest, hrest, htext⟩ := Option.bind_eq_some_iff.mp hcs
    obtain ⟨head', hline, hhead⟩ := List.dropPrefix?_eq_some_iff.mp hrest
    obtain ⟨tail', hrest', htail⟩ := List.dropSuffix?_eq_some_iff.mp htext
    apply String.toList_injective
    rw [hline, hrest', eq_of_beq hhead, eq_of_beq htail]
    simp
  · rintro rfl
    have hchars : (head ++ text ++ tail).toList = head.toList ++ (text.toList ++ tail.toList) := by
      simp
    have hsuffix : (text.toList ++ tail.toList).dropSuffix? tail.toList = some text.toList :=
      List.dropSuffix?_eq_some_iff.mpr ⟨tail.toList, rfl, by simp⟩
    rw [framed?, hchars, List.dropPrefix?_append_of_beq _ (by simp), Option.bind_some, hsuffix]
    simp

theorem framed?_of_clash (head tail start rest : String)
    (h : clash head.toList start.toList = true) : framed? head tail (start ++ rest) = none := by
  rw [framed?, String.toList_append, dropPrefix?_of_clash _ _ _ h]
  rfl

def pairAt? (mark : Char) (text : String) : Option (String × String) :=
  match text.toList.splitOn mark with
  | [a, b] => some (String.ofList a, String.ofList b)
  | _ => none

/-- The mark occurs once, between the two parts. -/
theorem pairAt?_eq_some_iff (mark : Char) (text a b : String) :
    pairAt? mark text = some (a, b) ↔
      text.toList = a.toList ++ mark :: b.toList ∧ mark ∉ a.toList ∧ mark ∉ b.toList := by
  constructor
  · intro h
    unfold pairAt? at h
    split at h
    · rename_i as bs hsplit
      -- No part has the mark, and joined by it the parts are the text again.
      have hjoin : [mark].intercalate (text.toList.splitOn mark) = text.toList :=
        List.intercalate_splitOn mark
      have hnot := Path.not_mem_of_mem_splitOn mark text.toList
      rw [hsplit] at hjoin hnot
      obtain ⟨rfl, rfl⟩ : String.ofList as = a ∧ String.ofList bs = b := by simpa using h
      refine ⟨?_, ?_, ?_⟩
      · rw [← hjoin]
        simp
      · simpa using hnot as (by simp)
      · simpa using hnot bs (by simp)
    · exact absurd h (by simp)
  · rintro ⟨htext, ha, hb⟩
    have hsplit : text.toList.splitOn mark = [a.toList, b.toList] := by
      have hjoin : text.toList = [mark].intercalate [a.toList, b.toList] := by
        rw [htext]
        simp
      rw [hjoin]
      exact List.splitOn_intercalate mark (by simp [ha, hb]) (by simp)
    rw [pairAt?, hsplit]
    simp

/-- What a reader finds in a line that stands exactly one step further in. -/
def inner? {α : Type*} (r : String → Option α) (line : String) : Option α :=
  (framed? "    " "" line).bind r

section Inner

variable {α : Type*} (r : String → Option α)

theorem inner?_step_in (l : String) : inner? r ("    " ++ l) = r l := by
  have hframed : framed? "    " "" ("    " ++ l) = some l :=
    (framed?_eq_some_iff _ _ _ _).mpr String.append_empty.symm
  rw [inner?, hframed]
  rfl

theorem inner?_of_clash (start rest : String) (h : clash "    ".toList start.toList = true) :
    inner? r (start ++ rest) = none := by
  rw [inner?, framed?_of_clash _ _ _ _ h]
  rfl

theorem inner?_empty : inner? r "" = none := by
  have hframed : framed? "    " "" "" = none := by decide
  rw [inner?, hframed]
  rfl

/-- A line that stands before the members is none of them. -/
theorem inner?_of_isHeadingLine (l : String) (h : IsHeadingLine l) : inner? r l = none := by
  have hstarts : ∀ start ∈ ["package ", "import ", "/**", " *", "@Entity", "@Table",
      "public class "], clash "    ".toList start.toList = true := by decide
  rcases h with rfl | ⟨start, hstart, rest, rfl⟩
  · exact inner?_empty r
  · exact inner?_of_clash r start rest (hstarts start hstart)

/-- What is one step in is found there, and nothing else. -/
theorem filterMap_inner? (h : r "" = none) (ls : Listing) :
    (indented ls).filterMap (inner? r) = ls.filterMap r := by
  rw [indented, List.filterMap_map]
  refine List.filterMap_congr fun l _ => ?_
  simp only [Function.comp_apply]
  split
  · rename_i hempty
    rw [String.isEmpty_iff.mp hempty, h, inner?_empty]
  · exact inner?_step_in r l

end Inner

end Listing

namespace Members

open Listing Naming

def declaration? (line : String) : Option (String × String) :=
  (framed? "private " ";" line).bind (pairAt? ' ')

def getter? (line : String) : Option (String × String) :=
  (framed? "public " "() \x7b" line).bind fun text => (pairAt? ' ' text).bind fun (type, name) =>
    (framed? "get" "" name).map (type, ·)

/-- What follows `set` in the name of the setter that a line opens, and the type and the name of its
parameter. -/
def setter? (line : String) : Option (String × String × String) :=
  (framed? "public void set" ") \x7b" line).bind fun text =>
    (pairAt? '(' text).bind fun (accessor, parameter) => (pairAt? ' ' parameter).map (accessor, ·)

/-- The lines that declare fields are exactly these. -/
theorem declaration?_eq_some_iff (line type name : String) :
    declaration? line = some (type, name) ↔
      line = "private " ++ type ++ " " ++ name ++ ";" ∧ ' ' ∉ type.toList ∧ ' ' ∉ name.toList := by
  rw [declaration?, Option.bind_eq_some_iff]
  constructor
  · rintro ⟨text, hline, htext⟩
    obtain ⟨hchars, ht, hn⟩ := (pairAt?_eq_some_iff _ _ _ _).mp htext
    refine ⟨?_, ht, hn⟩
    apply String.toList_injective
    rw [(framed?_eq_some_iff _ _ _ _).mp hline]
    simp [hchars]
  · rintro ⟨rfl, ht, hn⟩
    refine ⟨type ++ " " ++ name, (framed?_eq_some_iff _ _ _ _).mpr ?_,
      (pairAt?_eq_some_iff _ _ _ _).mpr ⟨by simp, ht, hn⟩⟩
    simp only [String.append_assoc]

/-- The lines that open getters are exactly these. -/
theorem getter?_eq_some_iff (line type accessor : String) :
    getter? line = some (type, accessor) ↔
      line = "public " ++ type ++ " get" ++ accessor ++ "() \x7b" ∧
        ' ' ∉ type.toList ∧ ' ' ∉ accessor.toList := by
  simp only [getter?, Option.bind_eq_some_iff, Option.map_eq_some_iff, Prod.exists]
  constructor
  · rintro ⟨text, hline, t, name, htext, a, hname, heq⟩
    obtain ⟨rfl, rfl⟩ : t = type ∧ a = accessor := by simpa using heq
    obtain ⟨hchars, ht, hn⟩ := (pairAt?_eq_some_iff _ _ _ _).mp htext
    rw [(framed?_eq_some_iff _ _ _ _).mp hname] at hchars hn
    refine ⟨?_, ht, by simpa using hn⟩
    apply String.toList_injective
    rw [(framed?_eq_some_iff _ _ _ _).mp hline]
    simp [hchars]
  · rintro ⟨rfl, ht, ha⟩
    refine ⟨type ++ " get" ++ accessor, (framed?_eq_some_iff _ _ _ _).mpr ?_, type,
      "get" ++ accessor, (pairAt?_eq_some_iff _ _ _ _).mpr ⟨by simp, ht, by simpa using ha⟩,
      accessor, (framed?_eq_some_iff _ _ _ _).mpr String.append_empty.symm, rfl⟩
    simp only [String.append_assoc]

/-- The lines that open setters are exactly these. -/
theorem setter?_eq_some_iff (line type name accessor : String) :
    setter? line = some (accessor, type, name) ↔
      line = "public void set" ++ accessor ++ "(" ++ type ++ " " ++ name ++ ") \x7b" ∧
        ('(' ∉ accessor.toList ∧ '(' ∉ type.toList ∧ '(' ∉ name.toList) ∧
        ' ' ∉ type.toList ∧ ' ' ∉ name.toList := by
  simp only [setter?, Option.bind_eq_some_iff, Option.map_eq_some_iff, Prod.exists]
  constructor
  · rintro ⟨text, hline, a, parameter, htext, t, n, hparameter, heq⟩
    obtain ⟨rfl, rfl, rfl⟩ : a = accessor ∧ t = type ∧ n = name := by simpa using heq
    obtain ⟨hchars, ha, hp⟩ := (pairAt?_eq_some_iff _ _ _ _).mp htext
    obtain ⟨hpair, ht, hn⟩ := (pairAt?_eq_some_iff _ _ _ _).mp hparameter
    rw [hpair] at hchars hp
    -- The bracket is looked for in all of the parameter, so neither of its words has one.
    refine ⟨?_, ⟨ha, by simpa using hp⟩, ht, hn⟩
    apply String.toList_injective
    rw [(framed?_eq_some_iff _ _ _ _).mp hline]
    simp [hchars]
  · rintro ⟨rfl, ⟨ha, hbt, hbn⟩, ht, hn⟩
    refine ⟨accessor ++ "(" ++ type ++ " " ++ name, (framed?_eq_some_iff _ _ _ _).mpr ?_, accessor,
      type ++ " " ++ name, (pairAt?_eq_some_iff _ _ _ _).mpr ⟨by simp, ha, ?_⟩, type, name,
      (pairAt?_eq_some_iff _ _ _ _).mpr ⟨by simp, ht, hn⟩, rfl⟩
    · simp only [String.append_assoc]
    · simp [hbt, hbn]

theorem IsPlainWord.no_blank {s : String} (h : IsPlainWord s) : ' ' ∉ s.toList :=
  h.plain.not_mem ' ' (by decide)

theorem declaration?_of_clash (start rest : String)
    (h : clash "private ".toList start.toList = true) : declaration? (start ++ rest) = none := by
  rw [declaration?, framed?_of_clash _ _ _ _ h]
  rfl

theorem getter?_of_clash (start rest : String) (h : clash "public ".toList start.toList = true) :
    getter? (start ++ rest) = none := by
  rw [getter?, framed?_of_clash _ _ _ _ h]
  rfl

theorem setter?_of_clash (start rest : String)
    (h : clash "public void set".toList start.toList = true) : setter? (start ++ rest) = none := by
  rw [setter?, framed?_of_clash _ _ _ _ h]
  rfl

section Field

variable (f : Field) (hf : IsPlainWord f.name ∧ IsPlainWord f.accessor)

include hf

theorem getter?_getterHead : getter? (getterHead f) = some (f.type.javaType, f.accessor) :=
  (getter?_eq_some_iff _ _ _).mpr ⟨rfl, (isPlainWord_javaType f.type).no_blank, hf.2.no_blank⟩

/-- A setter is not taken for a getter. -/
theorem getter?_setterHead : getter? (setterHead f) = none := by
  by_contra hsome
  -- What stands at the front and the end is no help here: the void of a setter could be the type
  -- of a getter. But the head of a setter has one blank more.
  obtain ⟨⟨type, accessor⟩, h⟩ := Option.ne_none_iff_exists'.mp hsome
  obtain ⟨hline, ht, ha⟩ := (getter?_eq_some_iff _ _ _).mp h
  have hnone : ∀ {s : String}, ' ' ∉ s.toList → s.toList.count ' ' = 0 := List.count_eq_zero.mpr
  have hsetter : (setterHead f).toList.count ' ' = 4 := by
    unfold setterHead
    simp only [String.toList_append, List.count_append,
      hnone (isPlainWord_javaType f.type).no_blank,
      hnone hf.1.no_blank, hnone hf.2.no_blank]
    decide
  have hgetter : ("public " ++ type ++ " get" ++ accessor ++ "() \x7b").toList.count ' ' = 3 := by
    simp only [String.toList_append, List.count_append, hnone ht, hnone ha]
    decide
  rw [hline] at hsetter
  omega

theorem setter?_setterHead :
    setter? (setterHead f) = some (f.accessor, f.type.javaType, f.name) := by
  have htype := isPlainWord_javaType f.type
  have hbracket : ∀ {s : String}, IsPlainWord s → '(' ∉ s.toList := fun h =>
    h.plain.not_mem '(' (by decide)
  exact (setter?_eq_some_iff _ _ _ _).mpr ⟨rfl, ⟨hbracket hf.2, hbracket htype, hbracket hf.1⟩,
    htype.no_blank, hf.1.no_blank⟩

end Field

/-- A getter is not taken for a setter. -/
theorem setter?_getterHead (f : Field) : setter? (getterHead f) = none := by
  -- The types begin with capitals.
  have hclash : clash "public void set".toList ("public " ++ f.type.javaType).toList = true := by
    cases f.type <;> decide
  unfold getterHead
  rw [String.append_assoc, String.append_assoc]
  exact setter?_of_clash _ _ hclash

/-- The fields that a text declares one step in, as types and names. -/
def declarations (text : String) : List (String × String) :=
  (lines text).filterMap (inner? declaration?)

/-- The getters of a text one step in, as types and accessors. -/
def getters (text : String) : List (String × String) := (lines text).filterMap (inner? getter?)

/-- The setters of a text one step in, as accessors, types and names. -/
def setters (text : String) : List (String × String × String) :=
  (lines text).filterMap (inner? setter?)

def column? : String → Option String := between? "@Column" ""

/-- What a text says of columns, however far in. -/
def columns (text : String) : List String := (lines text).filterMap column?

/-- Each field that a line declares one step in, with the line right above it. -/
def withAbove (ls : Listing) : List (String × String × String) :=
  (ls.zip ls.tail).filterMap fun p => (inner? declaration? p.2).map (p.1, ·)

section Class

variable (k : ArtifactKind) (hk : k ∈ holders) (ctx : Context)

include hk in
theorem filterMap_inner?_listing {α : Type*} (r : String → Option α) (h : r "" = none) :
    (k.listing ctx).filterMap (inner? r) = (k.body ctx.fields).filterMap r := by
  have hclose : inner? r "\x7d" = none := inner?_of_clash r "\x7d" "" (by decide)
  rw [k.filterMap_listing hk ctx (inner?_of_isHeadingLine r) hclose, filterMap_inner? r h]

variable (h : ArePlainFields ctx.fields)

theorem isPlain_identity :
    IsPlainWord Field.identity.name ∧ IsPlainWord Field.identity.accessor :=
  ⟨isPlainWord_of_isIdentifier _ (by decide), isPlainWord_of_isIdentifier _ (by decide)⟩

include h in
theorem isPlain_of_mem_cons (f : Field) (hf : f ∈ Field.identity :: ctx.fields) :
    IsPlainWord f.name ∧ IsPlainWord f.accessor := by
  rcases List.mem_cons.mp hf with rfl | hf
  · exact isPlain_identity
  · exact h f hf

theorem declaration?_declaration (f : Field) (hf : IsPlainWord f.name) :
    declaration? (declaration f.type.javaType f.name) = some (f.type.javaType, f.name) :=
  (declaration?_eq_some_iff _ _ _).mpr ⟨rfl, (isPlainWord_javaType f.type).no_blank, hf.no_blank⟩

theorem declarations_accessorLines (f : Field) :
    (accessorLines f).filterMap declaration? = [] := by
  obtain ⟨getter, hgetter⟩ := exists_getterHead f
  obtain ⟨setter, hsetter⟩ := exists_setterHead f
  rw [filterMap_accessorLines f (by decide)
    (fun _ _ _ => declaration?_of_clash "    " _ (by decide)) (by decide), hgetter, hsetter,
    declaration?_of_clash _ _ (by decide), declaration?_of_clash _ _ (by decide)]
  rfl

include hk h in
/-- Both classes declare the identity and the fields, in order. -/
theorem declarations_listing :
    (k.listing ctx).filterMap (inner? declaration?) =
      (Field.identity :: ctx.fields).map fun f => (f.type.javaType, f.name) := by
  have hblank : declaration? "" = none := by decide
  have hopening : k.opening.filterMap declaration? = [("Long", identityColumn)] := by
    rcases mem_holders_iff.mp hk with rfl | rfl <;> decide
  have hfields : ∀ f ∈ ctx.fields,
      (k.fieldLines f).filterMap declaration? = [(f.type.javaType, f.name)] := by
    intro f hf
    rw [k.filterMap_fieldLines hk f hblank fun rest => declaration?_of_clash "@" rest (by decide),
      declaration?_declaration f (h f hf).1]
    rfl
  rw [filterMap_inner?_listing k hk ctx _ hblank, k.filterMap_body, hopening,
    List.flatMap_congr hfields, List.flatMap_congr fun f _ => declarations_accessorLines f,
    ← List.map_eq_flatMap]
  simp [Field.identity, SemanticType.javaType]

/-- What the reader finds among the members, it finds in the lines that open accessors. -/
structure IsAccessorReader {α : Type*} (r : String → Option α) : Prop where
  blank : r "" = none
  annotation : ∀ rest, r ("@" ++ rest) = none
  declaration : ∀ rest, r ("private " ++ rest) = none
  inner : ∀ rest, r ("    " ++ rest) = none
  close : r "\x7d" = none

theorem isAccessorReader_getter? : IsAccessorReader getter? where
  blank := by decide
  annotation := fun rest => getter?_of_clash "@" rest (by decide)
  declaration := fun rest => getter?_of_clash "private " rest (by decide)
  inner := fun rest => getter?_of_clash "    " rest (by decide)
  close := getter?_of_clash "\x7d" "" (by decide)

theorem isAccessorReader_setter? : IsAccessorReader setter? where
  blank := by decide
  annotation := fun rest => setter?_of_clash "@" rest (by decide)
  declaration := fun rest => setter?_of_clash "private " rest (by decide)
  inner := fun rest => setter?_of_clash "    " rest (by decide)
  close := setter?_of_clash "\x7d" "" (by decide)

include hk in
/-- An accessor reader finds something only in the heads of accessors. -/
theorem IsAccessorReader.filterMap_listing {α : Type*} {r : String → Option α}
    (hr : IsAccessorReader r) (hopening : k.opening.filterMap r = []) :
    (k.listing ctx).filterMap (inner? r) =
      (Field.identity :: ctx.fields).flatMap fun f =>
        (r (getterHead f)).toList ++ (r (setterHead f)).toList := by
  have hfields : ∀ f ∈ ctx.fields, (k.fieldLines f).filterMap r = [] := by
    intro f _
    have hdeclaration : r (Members.declaration f.type.javaType f.name) = none := by
      simp only [Members.declaration, String.append_assoc]
      exact hr.declaration _
    rw [k.filterMap_fieldLines hk f hr.blank hr.annotation, hdeclaration]
    rfl
  rw [filterMap_inner?_listing k hk ctx _ hr.blank, k.filterMap_body, hopening,
    List.flatMap_congr hfields,
    List.flatMap_congr fun f _ =>
      filterMap_accessorLines f hr.blank (fun _ _ _ => hr.inner _) hr.close]
  simp

include hk h in
theorem getters_listing :
    (k.listing ctx).filterMap (inner? getter?) =
      (Field.identity :: ctx.fields).map fun f => (f.type.javaType, f.accessor) := by
  have hopening : k.opening.filterMap getter? = [] := by
    rcases mem_holders_iff.mp hk with rfl | rfl <;> decide
  rw [isAccessorReader_getter?.filterMap_listing k hk ctx hopening, List.map_eq_flatMap]
  refine List.flatMap_congr fun f hf => ?_
  have hplain := isPlain_of_mem_cons ctx h f hf
  rw [getter?_getterHead f hplain, getter?_setterHead f hplain]
  rfl

include hk h in
theorem setters_listing :
    (k.listing ctx).filterMap (inner? setter?) =
      (Field.identity :: ctx.fields).map fun f => (f.accessor, f.type.javaType, f.name) := by
  have hopening : k.opening.filterMap setter? = [] := by
    rcases mem_holders_iff.mp hk with rfl | rfl <;> decide
  rw [isAccessorReader_setter?.filterMap_listing k hk ctx hopening, List.map_eq_flatMap]
  refine List.flatMap_congr fun f hf => ?_
  rw [setter?_getterHead f, setter?_setterHead f (isPlain_of_mem_cons ctx h f hf)]
  rfl

theorem column?_of_clash (start rest : String)
    (h : clash "@Column".toList (start.toList.dropWhile (· == ' ')) = true) :
    column? (start ++ rest) = none := between?_of_clash _ _ start rest h

theorem isReader_column? : Listing.IsReader column? := isReader_between _ _ (by decide)

theorem columns_accessorLines (f : Field) : (accessorLines f).filterMap column? = [] := by
  obtain ⟨getter, hgetter⟩ := exists_getterHead f
  obtain ⟨setter, hsetter⟩ := exists_setterHead f
  have hinner : ∀ start ∈ ["return ", "this."], ∀ rest,
      column? ("    " ++ (start ++ rest)) = none := by
    intro start hstart rest
    rw [isReader_column?.step_in]
    simp only [List.mem_cons, List.not_mem_nil, or_false] at hstart
    rcases hstart with rfl | rfl <;> exact column?_of_clash _ rest (by decide)
  have hclose : column? "\x7d" = none := column?_of_clash "\x7d" "" (by decide)
  rw [filterMap_accessorLines f isReader_column?.blank hinner hclose, hgetter, hsetter,
    column?_of_clash _ _ (by decide), column?_of_clash _ _ (by decide)]
  rfl

theorem columns_fieldLines (f : Field) :
    (k.fieldLines f).filterMap column? =
      if k = .entity then ["(name = \"" ++ f.columnName ++ "\")"] else [] := by
  have hdeclaration : column? (declaration f.type.javaType f.name) = none := by
    simp only [declaration, String.append_assoc]
    exact column?_of_clash "private " _ (by decide)
  have hcolumn : column? ("@Column(name = \"" ++ f.columnName ++ "\")") =
      some ("(name = \"" ++ f.columnName ++ "\")") := by
    have hhead : ("@Column(name = \"" : String) = "@Column" ++ "(name = \"" := rfl
    have hline : "@Column(name = \"" ++ f.columnName ++ "\")" =
        "@Column" ++ ("(name = \"" ++ f.columnName ++ "\")") ++ "" := by
      simp only [hhead, String.append_assoc, String.append_empty]
    rw [hline]
    exact between?_self _ _ _ (by decide) (by decide)
  cases k <;>
    simp [ArtifactKind.fieldLines, Entity.field, isReader_column?.blank, hcolumn, hdeclaration]

include hk in
/-- Only the entity names columns, one for each field. -/
theorem columns_listing :
    (k.listing ctx).filterMap column? =
      if k = .entity then ctx.fields.map fun f => "(name = \"" ++ f.columnName ++ "\")"
      else [] := by
  have hstarts : ∀ start ∈ ["package ", "import ", "/**", " *", "@Entity", "@Table",
      "public class "],
      clash "@Column".toList (start.toList.dropWhile (· == ' ')) = true := by decide
  have hheading : ∀ l, IsHeadingLine l → column? l = none := by
    rintro l (rfl | ⟨start, hstart, rest, rfl⟩)
    · exact isReader_column?.blank
    · exact column?_of_clash start rest (hstarts start hstart)
  have hopening : k.opening.filterMap column? = [] := by
    cases k <;> decide
  rw [k.filterMap_listing hk ctx hheading (column?_of_clash "\x7d" "" (by decide)),
    filterMap_indented isReader_column?, k.filterMap_body, hopening,
    List.flatMap_congr fun f _ => columns_fieldLines k f,
    List.flatMap_congr fun f _ => columns_accessorLines f]
  split <;> simp [List.map_eq_flatMap]

end Class

theorem withAbove_of_none (ls : Listing) (h : ls.filterMap (inner? declaration?) = []) :
    withAbove ls = [] := by
  refine List.filterMap_eq_nil_iff.mpr fun p hp => ?_
  have hline : p.2 ∈ ls := List.mem_of_mem_tail (List.of_mem_zip hp).2
  rw [List.filterMap_eq_nil_iff.mp h p.2 hline]
  rfl

/-- Nothing is read in a blank line, so a listing may be cut above one. -/
theorem withAbove_append (as bs : Listing) (h : bs.head? = some "") :
    withAbove (as ++ bs) = withAbove as ++ withAbove bs := by
  obtain ⟨bs, rfl⟩ := List.head?_eq_some_iff.mp h
  have hblank : inner? declaration? "" = none := inner?_empty _
  induction as with
  | nil => rfl
  | cons a as ih =>
    cases as with
    -- The one pair that is cut has the blank line below.
    | nil => simp [withAbove, hblank]
    | cons b as =>
      have hcut : ∀ rest, withAbove (a :: b :: rest) =
          ((inner? declaration? b).map (a, ·)).toList ++ withAbove (b :: rest) := by
        intro rest
        cases hb : inner? declaration? b <;> simp [withAbove, hb]
      rw [List.cons_append, List.cons_append, hcut, hcut, List.append_assoc, ← List.cons_append, ih]

/-- No part begins with a field, so the line above a field is in its own part. -/
theorem withAbove_flatten (as : Listing) (parts : List Listing)
    (h : ∀ p ∈ parts, p.head? = some "") :
    withAbove (as ++ parts.flatten) = withAbove as ++ parts.flatMap withAbove := by
  induction parts generalizing as with
  | nil => simp
  | cons p parts ih =>
    rw [List.forall_mem_cons] at h
    have hhead : (p ++ parts.flatten).head? = some "" := by
      rw [List.head?_append, h.1]
      rfl
    rw [List.flatten_cons, withAbove_append _ _ hhead, ih p h.2, List.flatMap_cons]

/-- Right above a field of the entity is the name of its column. -/
theorem withAbove_fieldLines (f : Field) (hf : IsPlainWord f.name) :
    withAbove (indented (ArtifactKind.entity.fieldLines f)) =
      [("    @Column(name = \"" ++ f.columnName ++ "\")", f.type.javaType, f.name)] := by
  have hcolumn : "    @Column(name = \"" ++ f.columnName ++ "\")" =
      "    " ++ ("@Column(name = \"" ++ f.columnName ++ "\")") := by
    rw [← String.append_assoc, ← String.append_assoc]
    rfl
  have habove : inner? declaration? ("    @Column(name = \"" ++ f.columnName ++ "\")") = none := by
    rw [hcolumn, inner?_step_in, String.append_assoc]
    exact declaration?_of_clash "@Column(name = \"" _ (by decide)
  rw [ArtifactKind.indented_fieldLines_entity, ← hcolumn]
  simp [withAbove, habove, inner?_step_in, declaration?_declaration f hf]

/-- In an entity the name of its column stands right above every field but the identity. -/
theorem withAbove_entity (ctx : Context) (h : ArePlainFields ctx.fields) :
    withAbove (Entity.listing ctx) =
      ("    @SequenceGenerator(name = \"sequenceGenerator\")", "Long", identityColumn) ::
        ctx.fields.map fun f =>
          ("    @Column(name = \"" ++ f.columnName ++ "\")", f.type.javaType, f.name) := by
  obtain ⟨heading, hlines, hlisting⟩ := ArtifactKind.entity.exists_heading (by decide) ctx
  let opening := indented ArtifactKind.entity.opening
  let fields := ctx.fields.map fun f => indented (ArtifactKind.entity.fieldLines f)
  let accessors := ((Field.identity :: ctx.fields).flatMap fun f => indented (accessorLines f)) ++
    ["\x7d"]
  -- After the heading every part begins with a blank line.
  have hparts : Entity.listing ctx =
      heading ++ ([opening] ++ fields ++ [accessors]).flatten := by
    calc Entity.listing ctx
        = heading ++ indented (ArtifactKind.entity.body ctx.fields) ++ ["\x7d"] :=
          hlisting ctx.fields
      _ = heading ++ ([opening] ++ fields ++ [accessors]).flatten := by
        rw [ArtifactKind.indented_body]
        simp [opening, fields, accessors, List.flatMap_def]
  have hblank : ∀ p ∈ [opening] ++ fields ++ [accessors], p.head? = some "" := by
    simp only [List.forall_mem_append, List.forall_mem_singleton, fields, List.forall_mem_map]
    exact ⟨⟨by decide, fun _ _ => rfl⟩, rfl⟩
  have hheading : withAbove heading = [] := withAbove_of_none _ <|
    List.filterMap_eq_nil_iff.mpr fun l hl => inner?_of_isHeadingLine _ l (hlines l hl)
  have hopening : withAbove opening =
      [("    @SequenceGenerator(name = \"sequenceGenerator\")", "Long", identityColumn)] := by
    decide
  have hfields : fields.flatMap withAbove = ctx.fields.map fun f =>
      ("    @Column(name = \"" ++ f.columnName ++ "\")", f.type.javaType, f.name) := by
    rw [List.flatMap_map, List.map_eq_flatMap]
    exact List.flatMap_congr fun f hf => withAbove_fieldLines f (h f hf).1
  have haccessors : withAbove accessors = [] := by
    apply withAbove_of_none
    have hclose : inner? declaration? "\x7d" = none := inner?_of_clash _ "\x7d" "" (by decide)
    have hnone : ∀ f ∈ Field.identity :: ctx.fields,
        (indented (accessorLines f)).filterMap (inner? declaration?) = [] := by
      intro f _
      rw [filterMap_inner? _ (by decide), declarations_accessorLines]
    rw [List.filterMap_append, List.filterMap_flatMap, List.flatMap_congr hnone]
    simp [hclose]
  rw [hparts, withAbove_flatten _ _ hblank, hheading, List.flatMap_append, List.flatMap_append,
    hfields]
  simp [hopening, haccessors]

section Accepted

variable (t : Table) (c : Config)

theorem map_identity_fields {α : Type*} (g : Field → α) :
    (Field.identity :: (Context.ofTable t c).fields).map g =
      g Field.identity :: t.columns.map fun col => g (Field.ofColumn col) := by
  simp [Context.ofTable, Table.fields, Function.comp_def]

variable (ht : t.checkNames = .ok ())
  (hc : Config.checkPackage c.basePackage = .ok ()) (k : ArtifactKind) (hk : k ∈ holders)

include ht hc hk

/-- The fields of a table, as they are read from the text of either class. -/
theorem declarations_content :
    declarations (k.content (Context.ofTable t c)) =
      ("Long", "id") :: t.columns.map fun col => (col.semanticType.javaType, col.fieldName) := by
  rw [declarations, CrudLayer.lines_content t c ht hc k,
    declarations_listing k hk _ (arePlainFields_ofTable t ht), map_identity_fields]
  rfl

theorem getters_content :
    getters (k.content (Context.ofTable t c)) =
      ("Long", "Id") :: t.columns.map fun col =>
        (col.semanticType.javaType, capitalize col.fieldName) := by
  rw [getters, CrudLayer.lines_content t c ht hc k,
    getters_listing k hk _ (arePlainFields_ofTable t ht), map_identity_fields]
  rfl

theorem setters_content :
    setters (k.content (Context.ofTable t c)) =
      ("Id", "Long", "id") :: t.columns.map fun col =>
        (capitalize col.fieldName, col.semanticType.javaType, col.fieldName) := by
  rw [setters, CrudLayer.lines_content t c ht hc k,
    setters_listing k hk _ (arePlainFields_ofTable t ht), map_identity_fields]
  rfl

end Accepted

/-- Both classes declare the identity and then the columns in their order, each with its type and
the name of its field, and have a getter and a setter for each in that order. In the entity the line
above the declaration of a column's field says the name of the column; the two classes say nothing
else of columns. -/
theorem classes_agree (t : Table) (package : String) (path : Path) (c : Config)
    (ht : t.checkNames = .ok ()) (hc : Config.validate package path = .ok c) :
    (∀ k ∈ holders,
      declarations (k.content (Context.ofTable t c)) =
        ("Long", "id") :: t.columns.map (fun col => (col.semanticType.javaType, col.fieldName)) ∧
      getters (k.content (Context.ofTable t c)) =
        ("Long", "Id") :: t.columns.map (fun col =>
          (col.semanticType.javaType, capitalize col.fieldName)) ∧
      setters (k.content (Context.ofTable t c)) =
        ("Id", "Long", "id") :: t.columns.map (fun col =>
          (capitalize col.fieldName, col.semanticType.javaType, col.fieldName))) ∧
    (∀ k ∈ holders, ∀ j ∈ holders,
      declarations (k.content (Context.ofTable t c)) =
        declarations (j.content (Context.ofTable t c)) ∧
      getters (k.content (Context.ofTable t c)) = getters (j.content (Context.ofTable t c)) ∧
      setters (k.content (Context.ofTable t c)) = setters (j.content (Context.ofTable t c))) ∧
    withAbove (lines (ArtifactKind.entity.content (Context.ofTable t c))) =
      ("    @SequenceGenerator(name = \"sequenceGenerator\")", "Long", "id") ::
        t.columns.map (fun col => ("    @Column(name = \"" ++ camelToSnake col.fieldName ++ "\")",
          col.semanticType.javaType, col.fieldName)) ∧
    columns (ArtifactKind.entity.content (Context.ofTable t c)) =
      t.columns.map (fun col => "(name = \"" ++ camelToSnake col.fieldName ++ "\")") ∧
    columns (ArtifactKind.transferObject.content (Context.ofTable t c)) = [] := by
  obtain ⟨rfl, hpackage, -⟩ := Config.validate_eq_ok package path c hc
  have hdeclarations := declarations_content t ⟨package, path⟩ ht hpackage
  have hgetters := getters_content t ⟨package, path⟩ ht hpackage
  have hsetters := setters_content t ⟨package, path⟩ ht hpackage
  have hlines := CrudLayer.lines_content t ⟨package, path⟩ ht hpackage
  -- Both classes list what the table has, so they list the same.
  refine ⟨fun k hk => ⟨hdeclarations k hk, hgetters k hk, hsetters k hk⟩, ?_, ?_, ?_, ?_⟩
  · intro k hk j hj
    refine ⟨?_, ?_, ?_⟩
    · rw [hdeclarations k hk, hdeclarations j hj]
    · rw [hgetters k hk, hgetters j hj]
    · rw [hsetters k hk, hsetters j hj]
  · rw [hlines .entity, ArtifactKind.listing, withAbove_entity _ (arePlainFields_ofTable t ht)]
    simp [Context.ofTable, Table.fields, Field.ofColumn, identityColumn, Function.comp_def]
  · rw [columns, hlines .entity, columns_listing .entity (by decide)]
    simp [Context.ofTable, Table.fields, Field.ofColumn, Function.comp_def]
  · rw [columns, hlines .transferObject, columns_listing .transferObject (by decide)]
    simp

def orderItemTable : Table :=
  Table.ofColumns "order_item" [⟨"ID", "bigint"⟩, ⟨"order_id", "bigint"⟩, ⟨"note", "varchar(80)"⟩]

theorem classes_agree_orderItem :
    orderItemTable.checkNames = .ok () ∧
    Config.validate "pkg" ⟨"out"⟩ = .ok ⟨"pkg", ⟨"out"⟩⟩ ∧
    setters (ArtifactKind.transferObject.content (Context.ofTable orderItemTable ⟨"pkg", ⟨"out"⟩⟩)) =
      [("Id", "Long", "id"), ("OrderId", "Long", "orderId"), ("Note", "String", "note")] ∧
    withAbove (lines (ArtifactKind.entity.content
      (Context.ofTable orderItemTable ⟨"pkg", ⟨"out"⟩⟩))) =
        [("    @SequenceGenerator(name = \"sequenceGenerator\")", "Long", "id"),
          ("    @Column(name = \"order_id\")", "Long", "orderId"),
          ("    @Column(name = \"note\")", "String", "note")] := by
  have hnames : orderItemTable.checkNames = .ok () := by decide
  obtain ⟨hboth, -, habove, -⟩ :=
    classes_agree orderItemTable "pkg" ⟨"out"⟩ ⟨"pkg", ⟨"out"⟩⟩ hnames rfl
  refine ⟨hnames, rfl, ?_, ?_⟩
  · rw [(hboth .transferObject (by decide)).2.2]
    decide
  · rw [habove]
    decide

end Members
end CrudLayer
