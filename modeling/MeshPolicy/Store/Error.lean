import MeshPolicy.Resource.ObjectId
import MeshPolicy.Text.Decimal
import MeshPolicy.Text.Quoted

/-! # Failures of stores

* `ApiError`: how an exchange with the API server can fail.
* `StoreError`: how a store operation can fail; `ofApi` classifies the failure of an exchange.
* `StoreError.isRetryable`: whether the operation may succeed against fresh state.
-/

namespace MeshPolicy
set_option autoImplicit false

structure ErrorAnswer where
  status : String
  message : String
  reason : String
  code : Nat
  deriving DecidableEq, Repr

inductive ApiError where
  | refused (answer : ErrorAnswer)
  /-- The server answered with something that cannot be read. -/
  | unreadable
  | unaddressable
  | unreachable
  deriving DecidableEq, Repr

def ErrorAnswer.text (a : ErrorAnswer) : String :=
  a.message ++ ": " ++ a.reason ++ " (ErrorResponse \x7b status: " ++ Text.quoted a.status ++
    ", message: " ++ Text.quoted a.message ++ ", reason: " ++ Text.quoted a.reason ++ ", code: " ++
    Text.digits a.code ++ " \x7d)"

def ApiError.message : ApiError → String
  | refused answer => "ApiError: " ++ answer.text
  | unreadable => "Error deserializing response"
  | unaddressable => "Failed to build request"
  | unreachable => "ServiceError"

inductive StoreError where
  | notFound (id : ObjectId)
  | alreadyExists (id : ObjectId)
  | conflict (id : ObjectId)
  | api (error : ApiError)
  /-- The object has no name, so that nothing can be said about its identity. -/
  | unnamed
  deriving DecidableEq, Repr

namespace StoreError

def message : StoreError → String
  | notFound id => id.text ++ " not found"
  | alreadyExists id => id.text ++ " already exists"
  | conflict id => id.text ++ " was modified concurrently"
  | api error => error.message
  | unnamed => "object has no name"

def kind : StoreError → String
  | notFound _ => "NotFound"
  | alreadyExists _ => "AlreadyExists"
  | conflict _ => "Conflict"
  | api _ => "Api"
  | unnamed => "Unnamed"

def isNotFound : StoreError → Bool
  | notFound _ => true
  | _ => false

/-- Conflicts and failed exchanges may succeed against fresh state. -/
def isRetryable : StoreError → Bool
  | conflict _ | api _ => true
  | _ => false

/-- Classifies the failure of a write by the code of the server's error object. -/
def ofApi (id : ObjectId) : ApiError → StoreError
  | .refused answer =>
    if answer.code = 404 then notFound id
    else if answer.code = 409 then
      if answer.reason = "AlreadyExists" then alreadyExists id else conflict id
    else api (.refused answer)
  | error => api error

end StoreError

end MeshPolicy
