import CrudLayer.Artifact.Context

namespace CrudLayer

/-- A reason to refuse a request for its identities. -/
inductive IdentityGuard
  /-- What is to be created has an identity already. -/
  | alreadyIdentified
  /-- What is to be updated has no identity. -/
  | missingIdentity
  /-- What is to be updated is not what the route names. -/
  | identityMismatch
  /-- Nothing is stored under the identity that the route names. -/
  | identityNotFound
  deriving DecidableEq, Repr

namespace IdentityGuard

def onCreate : List IdentityGuard := [alreadyIdentified]

def onUpdate : List IdentityGuard := [missingIdentity, identityMismatch, identityNotFound]

def key : IdentityGuard → String
  | alreadyIdentified => "idexists"
  | missingIdentity => "idnull"
  | identityMismatch => "idinvalid"
  | identityNotFound => "idnotfound"

/-- The expression that is true when the request is refused. -/
def condition (ctx : Context) : IdentityGuard → String
  | alreadyIdentified => ctx.dtoVariable ++ ".getId() != null"
  | missingIdentity => ctx.dtoVariable ++ ".getId() == null"
  | identityMismatch => "!Objects.equals(id, " ++ ctx.dtoVariable ++ ".getId())"
  | identityNotFound => "!" ++ ctx.repositoryVariable ++ ".existsById(id)"

def message (ctx : Context) : IdentityGuard → String
  | alreadyIdentified => "A new " ++ ctx.entityVariable ++ " cannot already have an ID"
  | missingIdentity => "Invalid id"
  | identityMismatch => "Invalid id"
  | identityNotFound => "Entity not found"

end IdentityGuard
end CrudLayer
