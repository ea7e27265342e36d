namespace CrudLayer

inductive SemanticType
  | integer
  | longInteger
  | boolean
  | floatingPoint
  | text
  deriving DecidableEq, Repr

namespace SemanticType

def javaType : SemanticType → String
  | integer => "Integer"
  | longInteger => "Long"
  | boolean => "Boolean"
  | floatingPoint => "Double"
  | text => "String"

def label : SemanticType → String
  | integer => "integer"
  | longInteger => "long-integer"
  | boolean => "boolean"
  | floatingPoint => "floating-point"
  | text => "text"

/-- The type that a storage type without qualifier stands for. Letters are compared as they are. -/
def ofStorage? (token : String) : Option SemanticType :=
  if token = "int" then some integer
  else if token = "long" ∨ token = "bigint" then some longInteger
  else if token = "boolean" then some boolean
  else if token = "double" then some floatingPoint
  else if token = "string" then some text
  else none

def ofStorage (token : String) : SemanticType :=
  (ofStorage? token).getD text

end SemanticType

/-- A storage type up to its first parenthesis: `varchar(255)` becomes `varchar`. -/
def withoutQualifier (storageType : String) : String :=
  String.ofList (storageType.toList.takeWhile (· != '('))

end CrudLayer
