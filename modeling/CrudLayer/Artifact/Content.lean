import CrudLayer.Artifact.Entity
import CrudLayer.Artifact.Repository
import CrudLayer.Artifact.Resource
import CrudLayer.Artifact.Service
import CrudLayer.Artifact.TransferObject

namespace CrudLayer.ArtifactKind

def listing (ctx : Context) : ArtifactKind → Listing
  | entity => Entity.listing ctx
  | transferObject => TransferObject.listing ctx
  | serviceInterface => Service.interfaceListing ctx
  | serviceImplementation => Service.implementationListing ctx
  | resourceHandler => Resource.listing ctx
  | repository => Repository.listing ctx
  | mapper => Mapper.listing ctx

/-- The content of the file of this kind. -/
def content (k : ArtifactKind) (ctx : Context) : String := (k.listing ctx).render

end CrudLayer.ArtifactKind
