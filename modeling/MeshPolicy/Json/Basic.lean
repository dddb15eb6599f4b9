/-! # JSON values

A number keeps the literal it was written with, and an object keeps its members in the order in
which they were written, repetitions included.

* `Json.member?`: the first member of an object with a given name.
* `Json.depth`: how deeply arrays and objects are nested.
-/

namespace MeshPolicy
set_option autoImplicit false

inductive Json where
  | null
  | bool (value : Bool)
  | number (literal : String)
  | string (value : String)
  | array (items : List Json)
  | object (members : List (String × Json))
  deriving Inhabited, Repr

namespace Json

abbrev Members := List (String × Json)

def member? (name : String) : Json → Option Json
  | object members => members.lookup name
  | _ => none

mutual

/-- How deeply arrays and objects are nested; a value without parts has depth zero. -/
def depth : Json → Nat
  | array items => depthOfItems items + 1
  | object members => depthOfMembers members + 1
  | _ => 0

def depthOfItems : List Json → Nat
  | [] => 0
  | item :: rest => max item.depth (depthOfItems rest)

def depthOfMembers : List (String × Json) → Nat
  | [] => 0
  | (_, value) :: rest => max value.depth (depthOfMembers rest)

end

end Json

end MeshPolicy
