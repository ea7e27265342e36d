import CrudLayer.Artifact.Members

namespace CrudLayer.Entity

open Listing

/-- The identity field, whose values are drawn from a sequence. -/
def identity : Listing := [
  "@Id",
  "@GeneratedValue(strategy = GenerationType.SEQUENCE, generator = \"sequenceGenerator\")",
  "@SequenceGenerator(name = \"sequenceGenerator\")",
  Members.identity]

def field (f : Field) : Listing := [
  "@Column(name = \"" ++ f.columnName ++ "\")",
  Members.declaration f.type.javaType f.name]

def listing (ctx : Context) : Listing :=
  file (ctx.package .entity) ["jakarta.persistence.*", "java.io.Serializable"] <|
    documentation ["A " ++ ctx.typeName .entity ++ "."] ++
    ["@Entity", "@Table(name = \"" ++ ctx.tableName ++ "\")"] ++
    braced ("public class " ++ ctx.typeName .entity ++ " implements Serializable")
      ([""] ++ apart ([Members.serialVersion, identity] ++ ctx.fields.map field ++
        Members.allAccessors ctx)) ""

end CrudLayer.Entity
