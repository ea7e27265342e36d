import Mathlib
import CrudLayer.Changeset.Reading

namespace CrudLayer

namespace Logged

variable {ε α β : Type} {x : Logged ε Id α} {f : α → Logged ε Id β}

/-- The computation comes to `r` and records these events after those that were recorded before. -/
def Tells (x : Logged ε Id α) (r : Except ε α) (events : Log) : Prop :=
  ∀ log, (x.run.run log).run = (r, log ++ events)

theorem run_bind (x : Logged ε Id α) (f : α → Logged ε Id β) (log : List Event) :
    ((x >>= f).run.run log).run =
      match (x.run.run log).run with
      | (.ok a, log₁) => ((f a).run.run log₁).run
      | (.error e, log₁) => (.error e, log₁) := by
  simp only [ExceptT.run_bind, StateT.run_bind, Id.run_bind]
  rcases (x.run.run log).run with ⟨_ | _, _⟩ <;> rfl

theorem tells_pure (a : α) : Tells (pure a : Logged ε Id α) (.ok a) [] := fun log =>
  congrArg (Prod.mk _) (List.append_nil log).symm

theorem tells_throw (e : ε) : Tells (throw e : Logged ε Id α) (.error e) [] := fun log =>
  congrArg (Prod.mk _) (List.append_nil log).symm

theorem tells_record (e : Event) : Tells (record e : Logged ε Id Unit) (.ok ()) [e] := fun _ => rfl

/-- What is recorded first comes first. -/
theorem Tells.bind {a : α} {r : Except ε β} {events events' : Log} (hx : Tells x (.ok a) events)
    (hf : Tells (f a) r events') : Tells (x >>= f) r (events ++ events') := by
  intro log
  rw [run_bind, hx log]
  exact (hf _).trans (by rw [List.append_assoc])

/-- After a failure nothing more is recorded. -/
theorem Tells.bind_error {e : ε} {events : Log} (hx : Tells x (.error e) events) :
    Tells (x >>= f) (.error e) events := by
  intro log
  rw [run_bind, hx log]

/-- What is made of the result makes no difference to what is recorded. -/
theorem Tells.map {r : Except ε α} {events : Log} (h : Tells x r events) (g : α → β) :
    Tells (do return g (← x)) (r.map g) events := by
  cases r with
  | error e => exact h.bind_error
  | ok a =>
    rw [← List.append_nil events]
    exact h.bind (tells_pure (g a))

theorem Tells.recorded_if {r : Except ε α} {events : Log} (h : Tells x r events) (c : Prop)
    [Decidable c] (e : Event) :
    Tells (if c then record e >>= fun _ => x else x) r ((if c then [e] else []) ++ events) := by
  split
  · exact (tells_record e).bind h
  · exact h

theorem Tells.outcome_eq {r : Except ε α} {events : Log} (h : Tells x r events) :
    (Logged.outcome x).run = (r, events) := h []

end Logged

namespace Changeset

open Markup

/-- What counts of an element that declares a table: what it says its name is, and what every column
in it says its name and its type are. -/
structure Declaration where
  name? : Option String
  columns : List (Option String × Option String)
  deriving DecidableEq

/-- The values are those of the first attributes of these names, in whatever space. -/
def declarationOf (table : Node) : Declaration where
  name? := table.attribute? "tableName"
  columns := (table.children.filter (·.isNamed "column")).map fun n =>
    (n.attribute? "name", n.attribute? "type")

def filled? (value : Option String) : Option String :=
  value.filter fun s => s.toList.any (!Text.isBlank ·)

/-- The table that a declaration stands for. -/
def Declaration.table (d : Declaration) : Except Failure Table :=
  match filled? d.name? with
  | none => .error (.schema .tableNameMissing)
  | some name =>
    match d.columns.findIdx? fun c => (filled? c.1).isNone with
    | some i => .error (.schema (.columnNameMissing (i + 1) name))
    | none =>
      let table := Table.ofColumns name (d.columns.map fun c => ⟨c.1.getD "", c.2.getD ""⟩)
      match table.checkNames with
      | .ok () => .ok table
      | .error fault => .error (.schema (.name fault))

/-- The table that a text declares, or the reason why there is none. -/
def declared (text : String) : Except Failure Table := (Logged.outcome (parse text)).run.1

def columnOf (n : Node) : Column := ⟨(n.attribute? "name").getD "", (n.attribute? "type").getD ""⟩

def remarks (ignored : Nat) (columns : List Column) : Log :=
  (if ignored > 0 then [.furtherTables ignored] else []) ++
    columns.flatMap fun c => (remark? c).toList

/-- The columns of these elements, the first of which is at `position`, if all of them have names. -/
def columnsOf (table : String) (position : Nat) (nodes : List Node) :
    Except Failure (List Column) :=
  match nodes.findIdx? fun n => (filledAttribute? "name" n).isNone with
  | some i => .error (.schema (.columnNameMissing (i + position) table))
  | none => .ok (nodes.map columnOf)

/-- The columns of these elements up to the first one without a name. -/
def columnsBefore (nodes : List Node) : List Column :=
  (nodes.takeWhile fun n => (filledAttribute? "name" n).isSome).map columnOf

def columnsRead (table : Node) : List Column :=
  if (filledAttribute? "tableName" table).isSome then columnsBefore (columnNodes table) else []

/-- The filled value of an attribute, said in two ways. -/
theorem filled?_attribute? (name : String) (n : Node) :
    filled? (n.attribute? name) = filledAttribute? name n := by
  have hblank : ∀ s : String, (s.toList.any (!Text.isBlank ·)) = !Text.isAllBlank s := by
    intro s
    rw [Text.isAllBlank, List.not_all_eq_any_not]
  simp only [filled?, filledAttribute?, hblank]

theorem attribute?_of_filledAttribute? {name value : String} {n : Node}
    (h : filledAttribute? name n = some value) : n.attribute? name = some value :=
  (Option.filter_eq_some_iff.mp h).1

/-- All columns are read if the table and each of them have names. -/
theorem columnsRead_of_named {table : Node} {name : String}
    (hname : filledAttribute? "tableName" table = some name)
    (h : ∀ n ∈ columnNodes table, (filledAttribute? "name" n).isSome) :
    columnsRead table = (columnNodes table).map columnOf := by
  rw [columnsRead, hname, Option.isSome_some, if_pos rfl, columnsBefore,
    List.takeWhile_eq_self_iff.mpr h]

/-- Where an element has a name, the first one without is looked for after it. -/
theorem columnsOf_cons (table : String) (position : Nat) (n : Node) (nodes : List Node)
    (h : (filledAttribute? "name" n).isSome) :
    columnsOf table position (n :: nodes) =
      (columnsOf table (position + 1) nodes).map (columnOf n :: ·) := by
  have hfirst : (filledAttribute? "name" n).isNone = false := by
    rwa [Option.isNone_eq_false_iff]
  rw [columnsOf, columnsOf, List.findIdx?_cons, hfirst]
  cases nodes.findIdx? fun n => (filledAttribute? "name" n).isNone with
  | none => rfl
  | some i =>
    have hposition : i + 1 + position = i + (position + 1) := by omega
    simp [Except.map, hposition]

theorem columnsOf_eq_ok_iff (table : String) (position : Nat) (nodes : List Node)
    (columns : List Column) :
    columnsOf table position nodes = .ok columns ↔
      (∀ n ∈ nodes, (filledAttribute? "name" n).isSome) ∧ columns = nodes.map columnOf := by
  rw [columnsOf]
  cases hmissing : nodes.findIdx? fun n => (filledAttribute? "name" n).isNone with
  | none =>
    have hnamed : ∀ n ∈ nodes, (filledAttribute? "name" n).isSome := fun n hn =>
      Option.isNone_eq_false_iff.mp (List.findIdx?_eq_none_iff.mp hmissing n hn)
    refine ⟨fun h => ⟨hnamed, (Except.ok.inj h).symm⟩, ?_⟩
    rintro ⟨-, rfl⟩
    rfl
  | some i =>
    refine ⟨fun h => absurd h (by simp), ?_⟩
    rintro ⟨hnamed, -⟩
    have hnone := List.findIdx?_eq_none_iff.mpr fun n hn =>
      Option.isNone_eq_false_iff.mpr (hnamed n hn)
    exact absurd (hmissing.symm.trans hnone) (by simp)

/-- The columns are read up to the first one without a name, and each is remarked on in turn. -/
theorem tells_columnsFrom (table : String) (position : Nat) (nodes : List Node) :
    Logged.Tells (columnsFrom table position nodes) (columnsOf table position nodes)
      ((columnsBefore nodes).flatMap fun c => (remark? c).toList) := by
  -- The position counts on from node to node, so it is general in the induction.
  induction nodes generalizing position with
  | nil => exact Logged.tells_pure _
  | cons n nodes ih =>
    rw [columnsFrom]
    cases hname : filledAttribute? "name" n with
    | none =>
      have hmissing : columnsOf table position (n :: nodes) =
          .error (.schema (.columnNameMissing position table)) := by
        simp [columnsOf, List.findIdx?_cons, hname]
      have hbefore : columnsBefore (n :: nodes) = [] := by simp [columnsBefore, hname]
      rw [hmissing, hbefore]
      exact Logged.tells_throw _
    | some name =>
      have hcolumn : columnOf n = ⟨name, (n.attribute? "type").getD ""⟩ := by
        rw [columnOf, attribute?_of_filledAttribute? hname]
        rfl
      have hbefore : columnsBefore (n :: nodes) = columnOf n :: columnsBefore nodes := by
        simp [columnsBefore, hname]
      have hrest := (ih (position + 1)).map (columnOf n :: ·)
      rw [columnsOf_cons table position n nodes (by simp [hname]), hbefore, List.flatMap_cons]
      simp only [← hcolumn]
      cases remark? (columnOf n) with
      | none => exact hrest
      | some e => exact (Logged.tells_record e).bind hrest

/-- The table of a declaration in terms of the element that it was taken from. -/
theorem table_declarationOf (table : Node) :
    (declarationOf table).table =
      match filledAttribute? "tableName" table with
      | none => .error (.schema .tableNameMissing)
      | some name => (columnsOf name 1 (columnNodes table)).bind fun columns =>
        match (Table.ofColumns name columns).checkNames with
        | .ok () => .ok (Table.ofColumns name columns)
        | .error fault => .error (.schema (.name fault)) := by
  have hmissing : (declarationOf table).columns.findIdx? (fun c => (filled? c.1).isNone) =
      (columnNodes table).findIdx? fun n => (filledAttribute? "name" n).isNone := by
    simp only [declarationOf, List.findIdx?_map, columnNodes, Function.comp_def, filled?_attribute?]
  have hcolumns : ((declarationOf table).columns.map fun c =>
      (⟨c.1.getD "", c.2.getD ""⟩ : Column)) = (columnNodes table).map columnOf := by
    simp [declarationOf, columnNodes, columnOf]
  have hname : filled? (declarationOf table).name? = filledAttribute? "tableName" table :=
    filled?_attribute? "tableName" table
  rw [Declaration.table, hname, hmissing, hcolumns]
  cases filledAttribute? "tableName" table with
  | none => rfl
  | some name =>
    simp only [columnsOf]
    cases (columnNodes table).findIdx? fun n => (filledAttribute? "name" n).isNone with
    | none => rfl
    | some i => rfl

/-- The first table is read, and the others are only counted. -/
theorem tells_ofRoot {root table : Node} {others : List Node}
    (h : tableNodes root = table :: others) :
    Logged.Tells (ofRoot root) (declarationOf table).table
      (remarks others.length (columnsRead table)) := by
  rw [table_declarationOf, remarks]
  simp only [ofRoot, h]
  -- Further tables are reported, and then everything is as without them.
  apply Logged.Tells.recorded_if
  cases hfound : filledAttribute? "tableName" table with
  | none =>
    simp only [columnsRead, hfound]
    exact Logged.tells_throw _
  | some name =>
    have hread := tells_columnsFrom name 1 (columnNodes table)
    simp only [columnsRead, hfound, Option.isSome_some, if_true]
    cases hcolumns : columnsOf name 1 (columnNodes table) with
    | error f =>
      rw [hcolumns] at hread
      exact hread.bind_error
    | ok columns =>
      rw [hcolumns] at hread
      rw [← List.append_nil (List.flatMap _ _)]
      refine hread.bind ?_
      simp only [Except.bind]
      cases (Table.ofColumns name columns).checkNames with
      | ok _ => exact Logged.tells_pure _
      | error fault => exact Logged.tells_throw _

/-- A text that is no document records nothing. -/
theorem tells_parse_malformed {text : String} (h : root? text = none) :
    Logged.Tells (parse text) (.error (.schema .malformed)) [] := by
  rw [parse, h]
  exact Logged.tells_throw _

theorem tells_parse_noTable {text : String} {root : Node} (h : root? text = some root)
    (hnodes : tableNodes root = []) : Logged.Tells (parse text) (.error .noTable) [] := by
  rw [parse, h]
  simp only [ofRoot, hnodes]
  exact Logged.tells_throw _

/-- A document comes to the table of its first element, with the remarks on it. -/
theorem tells_parse {text : String} {root table : Node} {others : List Node}
    (h : root? text = some root) (hnodes : tableNodes root = table :: others) :
    Logged.Tells (parse text) (declarationOf table).table
      (remarks others.length (columnsRead table)) := by
  rw [parse, h]
  exact tells_ofRoot hnodes

/-- The outcome alone is what a text declares. -/
theorem declared_of_tells {text : String} {r : Except Failure Table} {events : Log}
    (h : Logged.Tells (parse text) r events) : declared text = r :=
  congrArg Prod.fst h.outcome_eq

/-- What a text declares is what comes of parsing it, whatever was recorded before. -/
theorem exists_tells_parse (text : String) :
    ∃ events, Logged.Tells (parse text) (declared text) events := by
  have htells : ∃ r events, Logged.Tells (parse text) r events := by
    cases hroot : root? text with
    | none => exact ⟨_, _, tells_parse_malformed hroot⟩
    | some root =>
      cases hnodes : tableNodes root with
      | nil => exact ⟨_, _, tells_parse_noTable hroot hnodes⟩
      | cons table others => exact ⟨_, _, tells_parse hroot hnodes⟩
  obtain ⟨r, events, h⟩ := htells
  exact ⟨events, by rwa [declared_of_tells h]⟩

/-- Only an element that declares one makes a text declare a table. -/
theorem exists_of_declared_eq_ok {text : String} {t : Table} (h : declared text = .ok t) :
    ∃ root table others, root? text = some root ∧ tableNodes root = table :: others ∧
      (declarationOf table).table = .ok t := by
  cases hroot : root? text with
  | none =>
    have hnone := declared_of_tells (tells_parse_malformed hroot)
    exact absurd (hnone.symm.trans h) (by simp)
  | some root =>
    cases hnodes : tableNodes root with
    | nil =>
      have hnone := declared_of_tells (tells_parse_noTable hroot hnodes)
      exact absurd (hnone.symm.trans h) (by simp)
    | cons table others =>
      exact ⟨root, table, others, rfl, hnodes,
        (declared_of_tells (tells_parse hroot hnodes)).symm.trans h⟩

/-- An element that declares a table comes to one only if it has a name and each column in it has
one. -/
theorem exists_of_table_eq_ok {table : Node} {t : Table}
    (h : (declarationOf table).table = .ok t) :
    ∃ name, filledAttribute? "tableName" table = some name ∧
      (∀ n ∈ columnNodes table, (filledAttribute? "name" n).isSome) ∧
      t = Table.ofColumns name ((columnNodes table).map columnOf) ∧ t.checkNames = .ok () := by
  rw [table_declarationOf] at h
  cases hfilled : filledAttribute? "tableName" table with
  | none => simp [hfilled] at h
  | some name =>
    rw [hfilled] at h
    cases hcolumns : columnsOf name 1 (columnNodes table) with
    | error f => simp [hcolumns, Except.bind] at h
    | ok columns =>
      obtain ⟨hnamed, rfl⟩ := (columnsOf_eq_ok_iff _ _ _ _).mp hcolumns
      simp only [hcolumns, Except.bind] at h
      split at h
      · rename_i hchecked
        obtain rfl := Except.ok.inj h
        exact ⟨name, rfl, hnamed, rfl, hchecked⟩
      · exact absurd h (by simp)

/-- A table that a text declares has names that can be used. -/
theorem checkNames_of_declared (text : String) (t : Table) (h : declared text = .ok t) :
    t.checkNames = .ok () := by
  obtain ⟨_, _, _, -, -, htable⟩ := exists_of_declared_eq_ok h
  obtain ⟨-, -, -, -, hchecked⟩ := exists_of_table_eq_ok htable
  exact hchecked

end Changeset
end CrudLayer
