import CrudLayer.Schema.Column

namespace CrudLayer

/-- A table with the columns that become fields, in the order of their declaration. -/
structure Table where
  /-- The name as declared. -/
  name : String
  columns : List Column
  no_identity : ∀ c ∈ columns, c.isIdentity = false
  deriving DecidableEq

namespace Table

/-- The table with these columns, but for identity columns. -/
def ofColumns (name : String) (columns : List Column) : Table where
  name := name
  columns := columns.filter (!·.isIdentity)
  no_identity := by simp

def entityName (t : Table) : String := Naming.entityName t.name

def fields (t : Table) : List Field := t.columns.map Field.ofColumn

def fallbackColumns (t : Table) : List Column := t.columns.filter (·.isFallback)

end Table

inductive NameFault
  /-- The table's entity name is no identifier. -/
  | typeName (table entity : String)
  /-- The column's field name is no identifier. -/
  | fieldName (column field : String)
  /-- An earlier column has the same field name. -/
  | duplicateField (column field : String)
  deriving DecidableEq, Repr

def NameFault.message : NameFault → String
  | typeName table entity =>
    s!"table name '{table}' does not produce a valid type name (got '{entity}')"
  | fieldName column field =>
    s!"column '{column}' does not produce a valid field name (got '{field}')"
  | duplicateField column field => s!"column '{column}' duplicates field '{field}'"

namespace Table

/-- The columns' field names are identifiers, and none is among those seen or those before it. -/
def checkFields (seen : List String) : List Column → Except NameFault Unit
  | [] => .ok ()
  | c :: rest =>
    if Naming.isIdentifier c.fieldName then
      if c.fieldName ∈ seen then .error (.duplicateField c.name c.fieldName)
      else checkFields (c.fieldName :: seen) rest
    else .error (.fieldName c.name c.fieldName)

/-- The first fault among the names taken from the table, the entity name before the fields. -/
def checkNames (t : Table) : Except NameFault Unit :=
  if Naming.isIdentifier t.entityName then checkFields [] t.columns
  else .error (.typeName t.name t.entityName)

end Table
end CrudLayer
