import MeshPolicy.Json.Record
import MeshPolicy.Sorted.Map

/-! # Metadata of objects

Every field of an object's metadata may be missing or `null`. When a field is written more than once
each writing has to be readable, and the last one counts.
-/

namespace MeshPolicy
set_option autoImplicit false

/-- Named texts: labels or annotations. -/
abbrev TextMap := SortedMap String String

structure Metadata where
  name : Option String := none
  ns : Option String := none
  labels : Option TextMap := none
  annotations : Option TextMap := none
  resourceVersion : Option String := none
  uid : Option String := none
  deriving DecidableEq, Inhabited

namespace TextMap

open Json

def encode (map : TextMap) : Json :=
  object (map.entries.map fun e => (e.1, string e.2))

def decode : Json → Option TextMap
  | object members =>
    (members.mapM fun m => (text? m.2).map fun value => (m.1, value)).map SortedMap.ofList
  | _ => none

end TextMap

namespace Metadata

open Json

/-- The last of the members called `name`, all of which must be readable. -/
def lastField {α : Type} (read : Json → Option α) (name : String) (members : Members) :
    Option (Option α) :=
  let nullOr : Json → Option (Option α)
    | null => some none
    | value => (read value).map some
  (((members.filter fun m => m.1 == name).map Prod.snd).mapM nullOr).map fun values =>
    values.getLast?.join

instance : Codec Metadata where
  encode m := object <|
    whenSome "name" string m.name ++ whenSome "namespace" string m.ns ++
      whenSome "labels" TextMap.encode m.labels ++
      whenSome "annotations" TextMap.encode m.annotations ++
      whenSome "resourceVersion" string m.resourceVersion ++ whenSome "uid" string m.uid
  decode
    | object members => do
      some
        { name := ← lastField text? "name" members
          ns := ← lastField text? "namespace" members
          labels := ← lastField TextMap.decode "labels" members
          annotations := ← lastField TextMap.decode "annotations" members
          resourceVersion := ← lastField text? "resourceVersion" members
          uid := ← lastField text? "uid" members }
    | _ => none

end Metadata

end MeshPolicy
