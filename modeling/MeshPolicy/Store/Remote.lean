import MeshPolicy.Http.Message
import MeshPolicy.Http.Status
import MeshPolicy.Store.Basic

/-! # Stores behind the API server

Each operation of a remote store sends one request and reads its answer. Nothing in an address is
escaped, so that some objects cannot be addressed; then nothing is sent.

* `Remote.request?`: the request of an operation.
* `Remote.answered`: the value in an answer, or why there is none.
* `Remote.store`: the five operations, over any way of sending requests.
-/

namespace MeshPolicy
set_option autoImplicit false

abbrev Transport (ω : Type) := Http.Request → ω → Http.Response × ω

namespace Remote

open Json

/-! ## Requests -/

def collection (kind : Kind) (ns : String) : String :=
  kind.path (if kind.isNamespaced then some ns else none)

/-- The address of an object. Without a name it has none. -/
def address? (kind : Kind) (id : ObjectId) : Option String :=
  if id.name = "" then none else some (collection kind id.ns ++ "/" ++ id.name)

def requestTo? (method : Http.Method) (address : String) (body : Option Json := none) :
    Option Http.Request :=
  (Http.Target.parse? address).map fun target => { method, target, body }

def listRequest? (kind : Kind) : Option Http.Request :=
  requestTo? .get (kind.path none ++ "?")

def getRequest? (kind : Kind) (id : ObjectId) : Option Http.Request :=
  (address? kind id).bind fun address => requestTo? .get address

def createRequest? (kind : Kind) (id : ObjectId) (object : Json) : Option Http.Request :=
  requestTo? .post (collection kind id.ns ++ "?") object

def replaceRequest? (kind : Kind) (id : ObjectId) (object : Json) : Option Http.Request :=
  (address? kind id).bind fun address => requestTo? .put (address ++ "?") object

def deleteRequest? (kind : Kind) (id : ObjectId) : Option Http.Request :=
  (address? kind id).bind fun address => requestTo? .delete (address ++ "?") (some (object []))

/-! ## Answers -/

instance : Codec ErrorAnswer where
  encode a := object
    [("status", string a.status), ("message", string a.message), ("reason", string a.reason),
      ("code", number (Text.digits a.code))]
  decode value := do
    let members ← record? ["status", "message", "reason", "code"] value
    some
      { status := ← field text? "status" members
        message := ← fieldOr "" text? "message" members
        reason := ← fieldOr "" text? "reason" members
        code := ← field (natBelow? 65536) "code" members }

/-- The error in an answer with an error status: the one in the body, or one made of the status. -/
def errorIn (status : Nat) (body : Http.Body) : ErrorAnswer :=
  match body.value?.bind decode with
  | some answer => answer
  | none =>
    { status := Http.Status.text status
      message := Text.quoted body.text
      reason := "Failed to parse error data"
      code := status }

def answered {α : Type} (read : Json → Option α) : Http.Response → Except ApiError α
  | .dropped => .error .unreachable
  | .answered status body =>
    if Http.Status.isError status then .error (.refused (errorIn status body))
    else
      match body.value?.bind read with
      | some value => .ok value
      | none => .error .unreadable

/-! ### Lists -/

/-- An integer that fits into 64 bits, written without a fraction. -/
def int64? : Json → Option Int
  | number literal =>
    match literal.toList with
    | '-' :: digits =>
      (Text.readDigits? digits).bind fun n =>
        if n ≤ 1 <<< 63 ∧ n ≠ 0 then some (-(n : Int)) else none
    | digits => (Text.readDigits? digits).bind fun n => if n < 1 <<< 63 then some (n : Int) else none
  | _ => none

def listMetadata? : Json → Option Unit
  | object members => do
    let _ ← Metadata.lastField text? "continue" members
    let _ ← Metadata.lastField int64? "remainingItemCount" members
    let _ ← Metadata.lastField text? "resourceVersion" members
    let _ ← Metadata.lastField text? "selfLink" members
    some ()
  | _ => none

/-- The items of a list; `null` stands for no items. -/
def items? {α : Type} (read : Json → Option α) : Json → Option (List α)
  | object members =>
    if ["metadata", "items"].all (onceAtMost members) then do
      let _ ← fieldOr () listMetadata? "metadata" members
      let items ← members.lookup "items"
      match items with
      | null => some []
      | items => list? read items
    else none
  | _ => none

/-! ### Answers to deletions -/

def cause? (value : Json) : Option Unit := do
  let members ← record? ["reason", "message", "field"] value
  let _ ← fieldOr "" text? "reason" members
  let _ ← fieldOr "" text? "message" members
  let _ ← fieldOr "" text? "field" members
  some ()

def details? (value : Json) : Option Unit := do
  let members ← record? ["name", "group", "kind", "uid", "causes", "retryAfterSeconds"] value
  let _ ← fieldOr "" text? "name" members
  let _ ← fieldOr "" text? "group" members
  let _ ← fieldOr "" text? "kind" members
  let _ ← fieldOr "" text? "uid" members
  let _ ← fieldOr [] (list? cause?) "causes" members
  let _ ← fieldOr 0 (natBelow? UInt32.size) "retryAfterSeconds" members
  some ()

def summary? : Json → Option Unit
  | string name | object [(name, null)] =>
    if name = "Success" ∨ name = "Failure" then some () else none
  | _ => none

def status? (value : Json) : Option Unit := do
  let members ← record? ["status", "code", "message", "reason", "details"] value
  let _ ← optionalField summary? "status" members
  let _ ← fieldOr 0 (natBelow? 65536) "code" members
  let _ ← fieldOr "" text? "message" members
  let _ ← fieldOr "" text? "reason" members
  let _ ← optionalField details? "details" members
  some ()

/-- How deeply an answer to a deletion may be nested. -/
def maxDepth : Nat := 127

def lastMember? (name : String) : Json → Option Json
  | object members => members.reverse.lookup name
  | _ => none

/-- Checks the answer to a deletion: a status, or the object that was deleted. -/
def deletion? (σ : Type) [Resource σ] (value : Json) : Option Unit :=
  if maxDepth < value.depth then none
  else
    match lastMember? "kind" value with
    | some (string "Status") => status? value
    | _ => (decode value : Option (Object σ)).map fun _ => ()

/-! ## The store -/

variable {σ ω : Type}

def exchange {α : Type} (send : Transport ω) (request : Option Http.Request)
    (read : Json → Option α) (world : ω) : Except ApiError α × ω :=
  match request with
  | none => (.error .unaddressable, world)
  | some request =>
    let (response, world) := send request world
    (answered read response, world)

/-- The answer to a look-up: an error whose reason is `NotFound` says that there is no object. -/
def lookedUp {α : Type} : Except ApiError α → Except StoreError (Option α)
  | .ok value => .ok (some value)
  | .error (.refused answer) =>
    if answer.reason = "NotFound" then .ok none else .error (.api (.refused answer))
  | .error error => .error (.api error)

def classified {α : Type} (id : ObjectId) : Except ApiError α → Except StoreError α
  | .ok value => .ok value
  | .error error => .error (.ofApi id error)

def store [Resource σ] (send : Transport ω) : Store σ ω where
  list world :=
    let (answer, world) := exchange send (listRequest? (Resource.kind σ)) (items? decode) world
    (answer.mapError .api, world)
  get id world :=
    let (answer, world) := exchange send (getRequest? (Resource.kind σ) id) decode world
    (lookedUp answer, world)
  create new world :=
    match new.id? with
    | none => (.error .unnamed, world)
    | some id =>
      let (answer, world) :=
        exchange send (createRequest? (Resource.kind σ) id (encode new)) decode world
      (classified id answer, world)
  replace new world :=
    match new.id? with
    | none => (.error .unnamed, world)
    | some id =>
      let (answer, world) :=
        exchange send (replaceRequest? (Resource.kind σ) id (encode new)) decode world
      (classified id answer, world)
  delete id world :=
    let (answer, world) :=
      exchange send (deleteRequest? (Resource.kind σ) id) (deletion? σ) world
    (classified id answer, world)

end Remote

end MeshPolicy
