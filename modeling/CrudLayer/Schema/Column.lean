import CrudLayer.Naming
import CrudLayer.Schema.Semantic

namespace CrudLayer

/-- The name of the identity column. Each generated class declares a field of this name itself. -/
def identityColumn : String := "id"

/-- A declared column. -/
structure Column where
  /-- The name as declared. -/
  name : String
  /-- The storage type as declared, with its qualifier. -/
  storageType : String
  deriving DecidableEq, Repr

namespace Column

def fieldName (c : Column) : String := Naming.snakeToCamel c.name

def baseType (c : Column) : String := withoutQualifier c.storageType

def semanticType (c : Column) : SemanticType := SemanticType.ofStorage c.baseType

/-- The storage type is not known, so the field is a text. -/
def isFallback (c : Column) : Bool := (SemanticType.ofStorage? c.baseType).isNone

/-- The column is the identity column: its field would be `id`, in whatever case. -/
def isIdentity (c : Column) : Bool := Text.sameIgnoringAsciiCase c.fieldName identityColumn

end Column

/-- A field of the generated classes. -/
structure Field where
  /-- The name of the field. -/
  name : String
  /-- What follows `get` and `set` in the names of its accessors. -/
  accessor : String
  /-- The name that its column is stored under. -/
  columnName : String
  /-- Its type. -/
  type : SemanticType
  deriving DecidableEq, Repr

def Field.ofColumn (c : Column) : Field where
  name := c.fieldName
  accessor := Naming.capitalize c.fieldName
  columnName := Naming.camelToSnake c.fieldName
  type := c.semanticType

end CrudLayer
