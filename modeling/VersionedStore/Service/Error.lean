import VersionedStore.Failure

/-!
# Errors of services

What keeps a request from being answered at all: the caller broke a precondition, no service is
there to ask, or all objects were asked for and the store failed.
-/

namespace VersionedStore

/-- A precondition that a caller broke. -/
inductive Precondition where
  | createOfStored (tag oid : String) (version : Version)
  | updateWithoutOid (tag : String)
  | updateOfNew (tag oid : String)
  | stated (reason : String)
  deriving DecidableEq

/-- The sentence for a broken precondition. -/
def Precondition.message : Precondition → String
  | .createOfStored tag oid version =>
    "cannot create " ++ tag ++ "[" ++ oid ++ "] with entity version " ++ version.digits ++
      ": a new model object must have version 0"
  | .updateWithoutOid tag => "cannot update " ++ tag ++ " without oid"
  | .updateOfNew tag oid =>
    "cannot update " ++ tag ++ "[" ++ oid ++
      "] with entity version 0: use create for new model objects"
  | .stated reason => reason

/-- Why a request is not answered. -/
inductive ServiceError where
  | domain (failure : Failure)
  | illegalState (cause : Precondition)
  | notRegistered (tag : String)
  | alreadyRegistered (tag : String)
  | typeMismatch (expected found : String)
  deriving DecidableEq

/-- The sentence for an error. -/
def ServiceError.message : ServiceError → String
  | .domain failure => "domain: " ++ failure.message
  | .illegalState cause => "illegal state: " ++ cause.message
  | .notRegistered tag => "service not registered: model_type=" ++ tag
  | .alreadyRegistered tag => "service already registered: model_type=" ++ tag
  | .typeMismatch expected found => "type mismatch: expected=" ++ expected ++ ", found=" ++ found

end VersionedStore
