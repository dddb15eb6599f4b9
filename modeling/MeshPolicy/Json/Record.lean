import MeshPolicy.Json.Basic
import MeshPolicy.Text.Decimal

/-! # Records in JSON

A record is written as an object, or as an array of its fields in the order of their declaration.
Members that are not declared are passed over; a declared one may not occur twice.

* `Json.record?`: the members of a record with the given field names.
* `field`, `fieldOr`, `optionalField`: a required field, a field with a default, and a field that
  may be missing or `null`.
* `text?`, `list?`, `natBelow?`: the shapes of the fields.
* `Codec`: a type that is written to and read from JSON.
-/

namespace MeshPolicy
set_option autoImplicit false

class Codec (α : Type) where
  encode : α → Json
  decode : Json → Option α

export Codec (encode decode)

namespace Json

variable {α : Type}

/-! ## Reading -/

/-- Whether no member called `name` is followed by another one. -/
def onceAtMost (members : Members) (name : String) : Bool :=
  (members.filter fun m => m.1 == name).length ≤ 1

/-- The members of a record whose fields are declared as `names`. -/
def record? (names : List String) : Json → Option Members
  | object members => if names.all (onceAtMost members) then some members else none
  | array items => if items.length ≤ names.length then some (names.zip items) else none
  | _ => none

def field (read : Json → Option α) (name : String) (members : Members) : Option α :=
  (members.lookup name).bind read

/-- A field that has the value `default` when it is missing. -/
def fieldOr (default : α) (read : Json → Option α) (name : String) (members : Members) : Option α :=
  match members.lookup name with
  | none => some default
  | some value => read value

/-- A field that may be missing or `null`. -/
def optionalField (read : Json → Option α) (name : String) (members : Members) :
    Option (Option α) :=
  match members.lookup name with
  | none => some none
  | some null => some none
  | some value => (read value).map some

def text? : Json → Option String
  | string value => some value
  | _ => none

def list? (read : Json → Option α) : Json → Option (List α)
  | array items => items.mapM read
  | _ => none

/-- A natural number below `bound`, written with digits only. -/
def natBelow? (bound : Nat) : Json → Option Nat
  | number literal => (Text.readDigits? literal.toList).filter fun n => n < bound
  | _ => none

/-! ## Writing -/

def texts (values : List String) : Json := array (values.map string)

/-- The member of an optional field; none if there is nothing to write. -/
def whenSome (name : String) (write : α → Json) : Option α → Members
  | none => []
  | some value => [(name, write value)]

/-- The member of a list that is left out when it is empty. -/
def whenNonempty (name : String) (write : α → Json) : List α → Members
  | [] => []
  | values => [(name, array (values.map write))]

end Json

end MeshPolicy
