namespace CrudLayer

inductive ArtifactKind
  | entity
  | transferObject
  | serviceInterface
  | serviceImplementation
  | resourceHandler
  | repository
  | mapper
  deriving DecidableEq, Repr

namespace ArtifactKind

/-- Every kind, in the order in which the files are made. -/
def all : List ArtifactKind := [
  entity, transferObject, serviceInterface, serviceImplementation, resourceHandler, repository,
  mapper]

/-- The names, below the base package, that lead to files of this kind. -/
def layer : ArtifactKind → List String
  | entity => ["domain"]
  | transferObject => ["service", "dto"]
  | serviceInterface => ["service"]
  | serviceImplementation => ["service", "impl"]
  | resourceHandler => ["web", "rest"]
  | repository => ["repository"]
  | mapper => ["mapper"]

/-- What follows the entity name in a type's name. -/
def suffix : ArtifactKind → String
  | entity => ""
  | transferObject => "DTO"
  | serviceInterface => "Service"
  | serviceImplementation => "ServiceImpl"
  | resourceHandler => "Resource"
  | repository => "Repository"
  | mapper => "Mapper"

def label : ArtifactKind → String
  | entity => "entity"
  | transferObject => "transfer object"
  | serviceInterface => "service interface"
  | serviceImplementation => "service implementation"
  | resourceHandler => "resource handler"
  | repository => "repository"
  | mapper => "mapper"

def typeName (k : ArtifactKind) (entityName : String) : String := entityName ++ k.suffix

def package (k : ArtifactKind) (basePackage : String) : String :=
  basePackage ++ "." ++ ".".intercalate k.layer

end ArtifactKind
end CrudLayer
