import Rulebook.Priority.Reorder
import Rulebook.Store.Basic
import Rulebook.Validation.Error

/-!
# Rulebook.Admin.Error

Why a request is refused.

A request fails because what it brings is not valid, because it conflicts with what is stored,
because what it addresses is not there, or because the store or the order of a scope is in no state
to serve it; only the last two are failures of the infrastructure.
-/

namespace Rulebook

/-- What a request conflicts with. -/
inductive Conflict where
  | idTaken (label id : String)
  | nameTaken (name : String)
  | ruleTaken (name : String)
  | fieldChanged (field : String)
  | createdMissing (label id : String)
  | updatedMissing (label id : String)
  | templateInUse (id : String) (users : List String)
  | listInUse (usage : String)
  deriving DecidableEq

/-- What a request does not find. -/
inductive Missing where
  | blankId (label : String)
  | record (label id : String)
  | feature (id : String)
  | list (id : String)
  deriving DecidableEq

/-- Why a request is refused. -/
inductive AdminError where
  | validation (error : ValidationError)
  | conflict (cause : Conflict)
  | notFound (cause : Missing)
  | store (error : StoreError)
  | order (error : Priority.OutOfRange)

/-- The conflict in words. -/
def Conflict.message : Conflict → String
  | .idTaken label id => label ++ " with id: " ++ id ++ " already exists"
  | .nameTaken name => "Name is already used: " ++ name
  | .ruleTaken name => "Rule has duplicate: " ++ name
  | .fieldChanged field => field ++ " cannot be changed"
  | .createdMissing label id =>
    "Created " ++ label ++ " " ++ id ++ " is not present in reorganized list"
  | .updatedMissing label id =>
    "Updated " ++ label ++ " " ++ id ++ " is not present in reorganized list"
  | .templateInUse id users =>
    "Template " ++ id ++ " is used by rule(s): " ++ String.intercalate ", " users
  | .listInUse usage => usage

/-- What is missing, in words. -/
def Missing.message : Missing → String
  | .blankId label => label ++ " id is empty"
  | .record label id => label ++ " with id: " ++ id ++ " does not exist"
  | .feature id => "Feature with id: " ++ id ++ " does not exist"
  | .list id => "List with id: " ++ id ++ " does not exist"

namespace AdminError

/-- The cause in words. -/
def message : AdminError → String
  | .validation error => error.message
  | .conflict cause => cause.message
  | .notFound cause => cause.message
  | .store error => error.message
  | .order error => error.message

/-- The failure is not one of the request. -/
def isInfrastructure : AdminError → Bool
  | .store _ | .order _ => true
  | _ => false

/-- The HTTP status that the failure is answered with. -/
def status : AdminError → Nat
  | .validation _ => 400
  | .notFound _ => 404
  | .conflict _ => 409
  | .store _ | .order _ => 500

end AdminError

end Rulebook
