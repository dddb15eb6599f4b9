import MeshPolicy.Json.Printer
import MeshPolicy.Json.Reader
import MeshPolicy.Sorted.List

/-! # HTTP requests and answers

* `Target.parse?`: the path and the query of a request address; none if the address is too long or
  has a character that must not stand in it.
* `Request`, `Response`: what is sent and what comes back.
* `Body.value?`, `Body.text`: a body as a JSON value and as text.
-/

namespace MeshPolicy.Http
set_option autoImplicit false

/-! ## Addresses -/

structure Target where
  path : String
  /-- The parts of the query, sorted. -/
  query : List String := []
  deriving DecidableEq, Repr

namespace Target

/-- The greatest number of bytes in an address. -/
def maxBytes : Nat := 65534

/-- Whether a character may stand in a path: no blank or control character, no angle bracket, no grave
accent, and none of the marks that begin a query or a fragment. -/
def inPath (c : Char) : Bool :=
  let n := c.toNat
  0x21 ≤ n && n != 0x23 && n != 0x3c && n != 0x3e && n != 0x3f && n != 0x60

def inQuery (c : Char) : Bool :=
  let n := c.toNat
  0x21 ≤ n && n != 0x22 && n != 0x23 && n != 0x3c && n != 0x3e

def partsAt (sep : Char) : List Char → List (List Char)
  | [] => [[]]
  | c :: rest =>
    if c = sep then [] :: partsAt sep rest
    else
      match partsAt sep rest with
      | [] => [[c]]
      | part :: parts => (c :: part) :: parts

/-- Reads an address: a fragment is dropped, and the query begins at the first question mark. -/
def parse? (address : String) : Option Target :=
  if maxBytes < address.utf8ByteSize then none
  else
    let cs := address.toList.takeWhile (· != '#')
    let path := cs.takeWhile (· != '?')
    let query := (cs.dropWhile (· != '?')).drop 1
    if path.all inPath && query.all inQuery then
      some
        { path := .ofList path
          query := sortInOrder
            (((partsAt '&' query).filter fun part => !part.isEmpty).map String.ofList) }
    else none

end Target

/-! ## Messages -/

inductive Method where
  | get
  | post
  | put
  | delete
  deriving DecidableEq, Repr

def Method.name : Method → String
  | get => "GET"
  | post => "POST"
  | put => "PUT"
  | delete => "DELETE"

structure Request where
  method : Method
  target : Target
  body : Option Json := none

inductive Body where
  | json (value : Json)
  | raw (text : String)

namespace Body

/-- The value that the body holds, if it is JSON. -/
def value? : Body → Option Json
  | json value => some value
  | raw text => Json.read? text

def text : Body → String
  | json value => value.compact
  | raw text => text

end Body

inductive Response where
  /-- No answer came back. -/
  | dropped
  | answered (status : Nat) (body : Body)

end MeshPolicy.Http
