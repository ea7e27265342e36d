import CrudLayer.Schema.Table
import CrudLayer.Text.Blank
import CrudLayer.Text.Json

namespace CrudLayer

inductive InspectionFormat
  | text
  | json
  deriving DecidableEq, Repr

namespace Inspection

def identityType : String := SemanticType.longInteger.javaType

def fieldLine (f : Field) : String :=
  "   " ++ f.name ++ " : " ++ f.type.javaType ++ " (" ++ f.type.label ++ ", column " ++
    f.columnName ++ ")"

/-- The line for the columns whose storage type is not known, if there are any. -/
def fallbackLine? (t : Table) : Option String :=
  if t.fallbackColumns.isEmpty then none
  else some ("⚠️  Unmapped storage types defaulted to text: " ++
    ", ".intercalate (t.fallbackColumns.map (·.name)))

def lines (t : Table) : List String :=
  ["📦 Table: " ++ t.name ++ " → entity " ++ t.entityName,
    "   " ++ identityColumn ++ " : " ++ identityType ++ " (identity, generated)"] ++
  t.fields.map fieldLine ++ (fallbackLine? t).toList

def fieldRecord (f : Field) : JsonValue := .record [
  ("name", .text f.name), ("accessor", .text f.accessor), ("column_name", .text f.columnName),
  ("semantic_type", .text f.type.label), ("java_type", .text f.type.javaType)]

def record (t : Table) : JsonValue := .record [
  ("table", .text t.name), ("entity", .text t.entityName),
  ("identity", .record [("name", .text identityColumn), ("java_type", .text identityType)]),
  ("fields", .list (t.fields.map fieldRecord)),
  ("fallback_columns", .list (t.fallbackColumns.map (.text ·.name)))]

/-- The table in a form. White space at the very end is left out. -/
def render (t : Table) : InspectionFormat → String
  | .text => Text.trimEnd (String.join ((lines t).map (· ++ "\n")))
  | .json => (record t).pretty ""

end Inspection
end CrudLayer
