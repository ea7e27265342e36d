import Mathlib
import CrudLayer.Proofs.FirstTable

namespace CrudLayer.Changeset

open Markup

/-- The first of the elements is the first in the document. -/
theorem exists_isFirst_of_tableNodes {root table : Node} {others : List Node}
    (h : tableNodes root = table :: others) :
    ∃ place, IsFirst (·.isNamed "createTable") root.descend? place table := by
  have houtcome := isOutcome_withDescendants (·.isNamed "createTable") root
  have hfind : root.withDescendants.find? (·.isNamed "createTable") = some table := by
    rw [← List.head?_filter]
    exact congrArg List.head? h
  rwa [hfind] at houtcome

def knownTypes : List String := ["int", "long", "bigint", "boolean", "double", "string"]

/-- A column falls back to text if its type is not among those that are known. -/
theorem isFallback_iff (c : Column) : c.isFallback = true ↔ c.baseType ∉ knownTypes := by
  simp only [Column.isFallback, SemanticType.ofStorage?, knownTypes, List.mem_cons,
    List.not_mem_nil, or_false]
  grind

structure Notice where
  level : Level
  message : String
  fields : List (String × FieldValue)
  deriving DecidableEq, Repr

/-- How much the event matters, what happened, and to what. -/
def noticeOf (e : Event) : Notice := ⟨e.level, e.message, e.fields⟩

def accountOfIgnored (ignored : Nat) : List Notice :=
  if ignored = 0 then []
  else [⟨.warn, "changeset declares more than one createTable; only the first is generated",
    [("ignored", .count ignored)]⟩]

/-- What is told of a declared column: that it was skipped, or that its type is not known. -/
def accountOfColumn (c : Column) : List Notice :=
  if c.isIdentity then [⟨.debug, "skipping identity column", [("column", .quoted c.name)]⟩]
  else if c.baseType ∈ knownTypes then []
  else [⟨.warn, "unmapped storage type, falling back to text",
    [("column", .quoted c.name), ("storage_type", .shown c.storageType)]⟩]

def typesUnknownIn (log : Log) : List (String × String) := log.filterMap fun
  | .typeUnknown column storageType => some (column, storageType)
  | _ => none

def identitiesSkippedIn (log : Log) : List String := log.filterMap fun
  | .identitySkipped column => some column
  | _ => none

/-- The element declares this column: it says its name and, where it says any, its type. -/
structure Declares (n : Node) (c : Column) : Prop where
  name : n.attribute? "name" = some c.name
  storageType : (n.attribute? "type").getD "" = c.storageType

theorem map_noticeOf_remark? (c : Column) :
    ((remark? c).toList).map noticeOf = accountOfColumn c := by
  have hiff := isFallback_iff c
  by_cases hidentity : c.isIdentity = true
  · simp [remark?, accountOfColumn, hidentity, noticeOf, Event.level, Event.message, Event.fields]
  · by_cases hknown : c.baseType ∈ knownTypes
    · have hfallback : c.isFallback = false := by simpa [hknown] using hiff
      simp [remark?, accountOfColumn, hidentity, hknown, hfallback]
    · have hfallback : c.isFallback = true := hiff.mpr hknown
      simp [remark?, accountOfColumn, hidentity, hknown, hfallback, noticeOf, Event.level,
        Event.message, Event.fields]

theorem level_remark? {c : Column} {e : Event} (h : remark? c = some e) :
    Level.debug.rank ≤ e.level.rank := by
  rw [remark?] at h
  split_ifs at h <;> (obtain rfl := Option.some.inj h; simp [Event.level, Level.rank])

/-- Nothing that reading records is hidden at the level of debugging. -/
theorem level_of_mem_remarks {ignored : Nat} {columns : List Column} {e : Event}
    (h : e ∈ remarks ignored columns) : Level.debug.rank ≤ e.level.rank := by
  rcases List.mem_append.mp h with h | h
  · split_ifs at h
    · obtain rfl := List.mem_singleton.mp h
      simp [Event.level, Level.rank]
    · exact absurd h List.not_mem_nil
  · obtain ⟨c, -, hc⟩ := List.mem_flatMap.mp h
    exact level_remark? (Option.mem_toList.mp hc)

/-- What is told first is how many tables were passed over, and then each column. -/
theorem map_noticeOf_remarks (ignored : Nat) (columns : List Column) :
    (remarks ignored columns).map noticeOf =
      accountOfIgnored ignored ++ columns.flatMap accountOfColumn := by
  have hignored : (if ignored > 0 then [Event.furtherTables ignored] else []).map noticeOf =
      accountOfIgnored ignored := by
    rcases Nat.eq_zero_or_pos ignored with rfl | hpos
    · rfl
    · rw [if_pos hpos, accountOfIgnored, if_neg (by omega)]
      rfl
  rw [remarks, List.map_append, hignored, List.map_flatMap]
  simp only [map_noticeOf_remark?]

theorem typesUnknownIn_append (log log' : Log) :
    typesUnknownIn (log ++ log') = typesUnknownIn log ++ typesUnknownIn log' :=
  List.filterMap_append

theorem identitiesSkippedIn_append (log log' : Log) :
    identitiesSkippedIn (log ++ log') = identitiesSkippedIn log ++ identitiesSkippedIn log' :=
  List.filterMap_append

theorem typesUnknownIn_remark? (c : Column) :
    typesUnknownIn (remark? c).toList =
      if !c.isIdentity && c.isFallback then [(c.name, c.storageType)] else [] := by
  cases hidentity : c.isIdentity <;> cases hfallback : c.isFallback <;>
    simp [remark?, hidentity, hfallback, typesUnknownIn]

theorem identitiesSkippedIn_remark? (c : Column) :
    identitiesSkippedIn (remark? c).toList = if c.isIdentity then [c.name] else [] := by
  cases hidentity : c.isIdentity <;> cases hfallback : c.isFallback <;>
    simp [remark?, hidentity, hfallback, identitiesSkippedIn]

/-- The columns that are told to be of unknown types are those that are kept and fall back. -/
theorem typesUnknownIn_remarks (ignored : Nat) (columns : List Column) :
    typesUnknownIn (remarks ignored columns) =
      ((columns.filter (!·.isIdentity)).filter (·.isFallback)).map
        fun c => (c.name, c.storageType) := by
  have hignored : typesUnknownIn (if ignored > 0 then [.furtherTables ignored] else []) = [] := by
    split_ifs <;> rfl
  rw [remarks, typesUnknownIn_append, hignored, List.nil_append]
  induction columns with
  | nil => rfl
  | cons c columns ih =>
    rw [List.flatMap_cons, typesUnknownIn_append, typesUnknownIn_remark?, ih]
    cases hidentity : c.isIdentity <;> cases hfallback : c.isFallback <;>
      simp [hidentity, hfallback]

/-- A column is told to be skipped, or it is kept. -/
theorem length_identitiesSkippedIn_remarks (ignored : Nat) (columns : List Column) :
    (identitiesSkippedIn (remarks ignored columns)).length +
      (columns.filter (!·.isIdentity)).length = columns.length := by
  have hignored :
      identitiesSkippedIn (if ignored > 0 then [.furtherTables ignored] else []) = [] := by
    split_ifs <;> rfl
  rw [remarks, identitiesSkippedIn_append, hignored, List.nil_append]
  induction columns with
  | nil => rfl
  | cons c columns ih =>
    rw [List.flatMap_cons, identitiesSkippedIn_append, identitiesSkippedIn_remark?,
      List.length_append, List.length_cons, ← ih]
    cases hidentity : c.isIdentity <;> simp [hidentity] <;> omega

/-- Where reading comes to a table, the events tell, in this order, how many other tables the
document declares, if any, and of each column whether it was skipped or its type is not known. So
the table's fallback columns can be told from the events, and how many columns it was declared
with. -/
theorem log_accounts_for_document (text : String) (t : Table) (log : Log)
    (h : (Logged.outcome (parse text)).run = (.ok t, log)) :
    ∃ (root : Node) (place : List Nat) (table : Node) (ignored : Nat) (columns : List Column),
      root? text = some root ∧
      IsFirst (·.isNamed "createTable") root.descend? place table ∧
      (placesOf (·.isNamed "createTable") root.descend?).encard = ignored + 1 ∧
      List.Forall₂ Declares (table.children.filter (·.isNamed "column")) columns ∧
      (log.filter fun e => Level.debug.rank ≤ e.level.rank).map noticeOf =
        accountOfIgnored ignored ++ columns.flatMap accountOfColumn ∧
      typesUnknownIn log = t.fallbackColumns.map (fun c => (c.name, c.storageType)) ∧
      (identitiesSkippedIn log).length + t.columns.length = columns.length := by
  have hdeclared : declared text = .ok t := congrArg Prod.fst h
  obtain ⟨root, table, others, hroot, hnodes, htable⟩ := exists_of_declared_eq_ok hdeclared
  obtain ⟨name, hname, hnamed, rfl, -⟩ := exists_of_table_eq_ok htable
  obtain ⟨place, hfirst⟩ := exists_isFirst_of_tableNodes hnodes
  have hcount : (placesOf (·.isNamed "createTable") root.descend?).encard = others.length + 1 := by
    rw [encard_placesOf]
    have hlength : (root.withDescendants.filter (·.isNamed "createTable")).length =
        others.length + 1 := congrArg List.length hnodes
    rw [hlength, Nat.cast_add, Nat.cast_one]
  have hcolumns : List.Forall₂ Declares (columnNodes table) ((columnNodes table).map columnOf) := by
    rw [List.forall₂_map_right_iff, List.forall₂_same]
    intro n hn
    obtain ⟨value, hvalue⟩ := Option.isSome_iff_exists.mp (hnamed n hn)
    exact ⟨by simp [columnOf, attribute?_of_filledAttribute? hvalue], rfl⟩
  -- The document determines what reading tells, so the log is nothing else.
  obtain rfl : log = remarks others.length ((columnNodes table).map columnOf) := by
    rw [← columnsRead_of_named hname hnamed]
    exact congrArg Prod.snd (h.symm.trans (tells_parse hroot hnodes).outcome_eq)
  refine ⟨root, place, table, others.length, _, hroot, hfirst, hcount, hcolumns, ?_, ?_, ?_⟩
  · rw [List.filter_eq_self.mpr fun e he => decide_eq_true (level_of_mem_remarks he)]
    exact map_noticeOf_remarks _ _
  · exact typesUnknownIn_remarks _ _
  · exact length_identitiesSkippedIn_remarks _ _

/-- Only the outer one of the tables counts, and of its columns the one that is kept is of an
unknown type. -/
theorem log_accounts_for_nested_tables :
    ∃ t log, (Logged.outcome (parse nestedTables)).run = (.ok t, log) ∧
      log = [.furtherTables 1, .identitySkipped "ID", .typeUnknown "cost" "money(2)"] ∧
      typesUnknownIn log = t.fallbackColumns.map (fun c => (c.name, c.storageType)) := by
  have h : (Logged.outcome (parse nestedTables)).run =
      (.ok (Table.ofColumns "t" [⟨"cost", "money(2)"⟩]),
        [.furtherTables 1, .identitySkipped "ID", .typeUnknown "cost" "money(2)"]) := by
    decide +kernel
  obtain ⟨-, -, -, -, -, -, -, -, -, -, htypes, -⟩ := log_accounts_for_document _ _ _ h
  exact ⟨_, _, h, rfl, htypes⟩

end CrudLayer.Changeset
