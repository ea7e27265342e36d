import CrudLayer.Event.Basic
import CrudLayer.Markup.Document
import CrudLayer.Text.Blank

/-!
The table that a changeset declares. The first `createTable` element of the document counts, and of
the elements in it those directly below it that are named `column`.
-/
namespace CrudLayer.Changeset

open Markup

def tableNodes (root : Node) : List Node := root.withDescendants.filter (·.isNamed "createTable")

def columnNodes (table : Node) : List Node := table.children.filter (·.isNamed "column")

/-- The value of an attribute that has more than white space in it. -/
def filledAttribute? (name : String) (n : Node) : Option String :=
  (n.attribute? name).filter (!Text.isAllBlank ·)

def remark? (c : Column) : Option Event :=
  if c.isIdentity then some (.identitySkipped c.name)
  else if c.isFallback then some (.typeUnknown c.name c.storageType)
  else none

/-- The columns that these elements declare, the first of which is at `position`. -/
def columnsFrom (table : String) (position : Nat) : List Node → Logged Failure Id (List Column)
  | [] => return []
  | n :: rest => do
    match filledAttribute? "name" n with
    | none => throw (.schema (.columnNameMissing position table))
    | some name =>
      let c : Column := ⟨name, (n.attribute? "type").getD ""⟩
      match remark? c with
      | some e => Logged.record e
      | none => pure ()
      return c :: (← columnsFrom table (position + 1) rest)

def ofRoot (root : Node) : Logged Failure Id Table := do
  match tableNodes root with
  | [] => throw .noTable
  | node :: others =>
    if others.length > 0 then Logged.record (.furtherTables others.length)
    match filledAttribute? "tableName" node with
    | none => throw (.schema .tableNameMissing)
    | some name =>
      let table := Table.ofColumns name (← columnsFrom name 1 (columnNodes node))
      match table.checkNames with
      | .ok () => return table
      | .error fault => throw (.schema (.name fault))

def parse (text : String) : Logged Failure Id Table :=
  match Markup.root? text with
  | some root => ofRoot root
  | none => throw (.schema .malformed)

end CrudLayer.Changeset
