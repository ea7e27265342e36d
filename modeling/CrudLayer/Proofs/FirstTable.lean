import Mathlib
import CrudLayer.Proofs.DocumentOrder
import CrudLayer.Proofs.Reading

namespace CrudLayer.Changeset

open Markup

/-- A text that is no document declares nothing. -/
theorem declared_of_malformed (text : String) (h : root? text = none) :
    declared text = .error (.schema .malformed) :=
  declared_of_tells (tells_parse_malformed h)

/-- Nor does a document in which no element declares a table. -/
theorem declared_of_noTable (text : String) (root : Node) (h : root? text = some root)
    (hnone : ∀ place n, root.descend? place = some n → n.isNamed "createTable" = false) :
    declared text = .error .noTable := by
  have hnodes : tableNodes root = [] := by
    have hfind := find?_withDescendants_of_none (·.isNamed "createTable") root hnone
    rw [tableNodes, List.filter_eq_nil_iff]
    exact List.find?_eq_none.mp hfind
  exact declared_of_tells (tells_parse_noTable h hnodes)

/-- The first place where a table is declared tells which one the text declares. -/
theorem declared_of_isFirst (text : String) (root : Node) (h : root? text = some root)
    (place : List Nat) (table : Node)
    (hfirst : IsFirst (·.isNamed "createTable") root.descend? place table) :
    declared text = (declarationOf table).table := by
  have hhead : (tableNodes root).head? = some table := by
    rw [tableNodes, List.head?_filter]
    exact find?_withDescendants_of_isFirst _ root place table hfirst
  obtain ⟨others, hnodes⟩ := List.head?_eq_some_iff.mp hhead
  exact declared_of_tells (tells_parse h hnodes)

/-- Where a node has the property, one of them is the first. -/
theorem exists_isFirst (root : Node) (p : Node → Bool) (place : List Nat) (n : Node)
    (hfound : root.descend? place = some n) (hn : p n = true) :
    ∃ place table, IsFirst p root.descend? place table := by
  have houtcome := isOutcome_withDescendants p root
  cases hfind : root.withDescendants.find? p with
  | none =>
    rw [hfind] at houtcome
    have hnot := houtcome place n hfound
    rw [hn] at hnot
    exact absurd hnot (by decide)
  | some table =>
    rw [hfind] at houtcome
    exact ⟨_, table, houtcome.choose_spec⟩

/-- A text that is no document declares nothing, nor does a document without a `createTable`.
Otherwise the first one in the order of the document says what is declared, by its name and by the
names and types of the columns directly below it. Nothing else in the document makes a
difference. -/
theorem first_table_declares (text : String) :
    (root? text = none → declared text = .error (.schema .malformed)) ∧
    ∀ root, root? text = some root →
      ((∀ place n, root.descend? place = some n → n.isNamed "createTable" = false) →
        declared text = .error .noTable) ∧
      (∀ place n, root.descend? place = some n → n.isNamed "createTable" = true →
        ∃ place table, IsFirst (·.isNamed "createTable") root.descend? place table) ∧
      ∀ place table, IsFirst (·.isNamed "createTable") root.descend? place table →
        declared text = (declarationOf table).table ∧
        ∀ text' root' place' table', root? text' = some root' →
          IsFirst (·.isNamed "createTable") root'.descend? place' table' →
          declarationOf table' = declarationOf table → declared text' = declared text := by
  refine ⟨declared_of_malformed text, fun root h => ⟨declared_of_noTable text root h, ?_, ?_⟩⟩
  · intro place n hfound hn
    exact exists_isFirst root _ place n hfound hn
  · intro place table hfirst
    have htable := declared_of_isFirst text root h place table hfirst
    refine ⟨htable, fun text' root' place' table' h' hfirst' hsame => ?_⟩
    rw [htable, declared_of_isFirst text' root' h' place' table' hfirst', hsame]

/-- A table in which another is declared, between columns one of which is the identity column. -/
def nestedTables : String :=
  "<createTable tableName=\"t\"><column name=\"ID\" type=\"uuid\"/>" ++
    "<createTable/><column name=\"cost\" type=\"money(2)\"/></createTable>"

/-- The same in another element, and one more table after it. -/
def wrappedTables : String :=
  "<changes>" ++ nestedTables ++ "<createTable tableName=\"u\"/></changes>"

/-- What is around the first table makes no difference, nor do the tables in it and after it, and of
its columns the identity column is left out. -/
theorem first_table_declares_wrapped :
    ∃ root table, root? wrappedTables = some root ∧
      IsFirst (·.isNamed "createTable") root.descend? [0] table ∧
      declared wrappedTables = .ok (Table.ofColumns "t" [⟨"cost", "money(2)"⟩]) ∧
      declared nestedTables = declared wrappedTables := by
  have hread : ((root? wrappedTables).any fun root => !root.isNamed "createTable" &&
      root.children.head?.any fun table => table.isNamed "createTable" &&
        (declarationOf table).table = .ok (Table.ofColumns "t" [⟨"cost", "money(2)"⟩]) &&
        (root? nestedTables).any fun other => other.isNamed "createTable" &&
          declarationOf other = declarationOf table) = true := by
    decide +kernel
  simp only [Option.any_eq_true, Bool.and_eq_true, Bool.not_eq_true', decide_eq_true_eq] at hread
  obtain ⟨root, hroot, hnot, table, hchild, ⟨hnamed, htable⟩, other, hother, hsame⟩ := hread
  have hfirst := isFirst_head (·.isNamed "createTable") root table hnot hchild hnamed
  obtain ⟨hdeclared, hagain⟩ := ((first_table_declares _).2 root hroot).2.2 _ table hfirst
  exact ⟨root, table, hroot, hfirst, hdeclared.trans htable,
    hagain _ other _ other hother (isFirst_self _ other hsame.1) hsame.2⟩

def isTag (name : String) (attributes : List Attribute) : Node → Bool
  | .element space n own children =>
    space.isNone && n == name && own == attributes && children.isEmpty
  | .text _ => false
  | .comment _ => false
  | .instruction _ _ => false

theorem isTag_iff {name : String} {attributes : List Attribute} {n : Node} :
    isTag name attributes n = true ↔ n = .element none name attributes [] := by
  cases n with
  | element space name attributes children => simp [isTag, and_assoc]
  | text content => simp [isTag]
  | comment content => simp [isTag]
  | instruction target content => simp [isTag]

theorem root?_spaced : root? "<createTable xml:tableName=\"t\"/>" =
    some (.element none "createTable" [⟨some xmlSpace, "tableName", "t"⟩] []) := by
  have hread : (root? "<createTable xml:tableName=\"t\"/>").any
      (isTag "createTable" [⟨some xmlSpace, "tableName", "t"⟩]) = true := by
    decide +kernel
  obtain ⟨root, hroot, htag⟩ := Option.any_eq_true _ _ |>.mp hread
  rw [hroot, isTag_iff.mp htag]

/-- The space of an attribute is not looked at, so that one in a space names a table too. -/
theorem attribute_in_a_space_names_table :
    ∃ attributes : List Attribute,
      root? "<createTable xml:tableName=\"t\"/>" = some (.element none "createTable" attributes []) ∧
      (∀ a ∈ attributes, ¬ (a.space = none ∧ a.name = "tableName")) ∧
      IsFirst (·.isNamed "createTable") (Node.element none "createTable" attributes []).descend? []
        (.element none "createTable" attributes []) ∧
      declared "<createTable xml:tableName=\"t\"/>" = .ok (Table.ofColumns "t" []) := by
  have hfirst := isFirst_self (·.isNamed "createTable")
    (.element none "createTable" [⟨some xmlSpace, "tableName", "t"⟩] []) rfl
  refine ⟨_, root?_spaced, ?_, hfirst, by decide +kernel⟩
  intro a ha
  obtain rfl := List.mem_singleton.mp ha
  simp

end CrudLayer.Changeset
