import CrudLayer.Artifact.Content
import CrudLayer.Failure

namespace CrudLayer

/-- A generated file. -/
structure Artifact where
  kind : ArtifactKind
  path : Path
  content : String
  deriving DecidableEq, Repr

namespace Artifact

/-- The path of a file: the base path, the directories of the base package, those of the kind's
layer, and the name of the type. -/
def pathOf (c : Config) (k : ArtifactKind) (entityName : String) : Path :=
  (k.layer ++ [k.typeName entityName ++ ".java"]).foldl (fun p name => p.join ⟨name⟩)
    (c.basePath.join c.packagePath)

/-- The file of one kind, which has to lie below the base path. -/
def ofKind (t : Table) (c : Config) (k : ArtifactKind) : Except Failure Artifact :=
  let path := pathOf c k t.entityName
  if Path.isBelow c.basePath path then
    .ok ⟨k, path, k.content (Context.ofTable t c)⟩
  else .error (.schema (.outside k path c.basePath))

/-- The files of all kinds, for a table whose names can all be used. -/
def plan (t : Table) (c : Config) : Except Failure (List Artifact) :=
  match t.checkNames with
  | .ok () => ArtifactKind.all.mapM (ofKind t c)
  | .error fault => .error (.schema (.name fault))

end Artifact
end CrudLayer
