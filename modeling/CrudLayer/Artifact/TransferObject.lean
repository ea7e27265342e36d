import CrudLayer.Artifact.Members

namespace CrudLayer.TransferObject

open Listing

def fields (ctx : Context) : Listing :=
  [Members.identity] ++ ctx.fields.map fun f => Members.declaration f.type.javaType f.name

def listing (ctx : Context) : Listing :=
  file (ctx.package .transferObject) ["java.io.Serializable"] <|
    documentation ["A DTO for the " ++ link (ctx.qualifiedName .entity) ++ " entity."] ++
    braced ("public class " ++ ctx.typeName .transferObject ++ " implements Serializable")
      ([""] ++ apart ([Members.serialVersion, fields ctx] ++ Members.allAccessors ctx)) ""

end CrudLayer.TransferObject
