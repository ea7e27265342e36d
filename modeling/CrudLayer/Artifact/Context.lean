import CrudLayer.Artifact.Kind
import CrudLayer.Config
import CrudLayer.Schema.Table

namespace CrudLayer

/-- The names and fields that generated files are written from. -/
structure Context where
  basePackage : String
  /-- The table's name as declared. -/
  tableName : String
  entityName : String
  fields : List Field
  deriving DecidableEq, Repr

namespace Context

/-- The context of a table under a configuration. -/
def ofTable (t : Table) (c : Config) : Context where
  basePackage := c.basePackage
  tableName := t.name
  entityName := t.entityName
  fields := t.fields

def typeName (ctx : Context) (k : ArtifactKind) : String := k.typeName ctx.entityName

def package (ctx : Context) (k : ArtifactKind) : String := k.package ctx.basePackage

def qualifiedName (ctx : Context) (k : ArtifactKind) : String :=
  ctx.package k ++ "." ++ ctx.typeName k

def entityVariable (ctx : Context) : String := Naming.lowerFirst ctx.entityName

def dtoVariable (ctx : Context) : String := ctx.entityVariable ++ "DTO"

def serviceVariable (ctx : Context) : String := ctx.entityVariable ++ "Service"

def repositoryVariable (ctx : Context) : String := ctx.entityVariable ++ "Repository"

def mapperVariable (ctx : Context) : String := ctx.entityVariable ++ "Mapper"

def apiPath (ctx : Context) : String := "/api/" ++ ctx.entityVariable

end Context
end CrudLayer
