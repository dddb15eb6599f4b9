import MeshPolicy.Sorted.Map
import MeshPolicy.Watch.Reaction

/-! # The cache of namespaces

The names of all namespaces, in ascending order.
-/

namespace MeshPolicy
set_option autoImplicit false

structure NamespaceCache where
  names : SortedSet String := ∅
  /-- Whether a complete listing was seen. -/
  synced : Bool := false

namespace NamespaceCache

def apply (cache : NamespaceCache) (name : String) : Reaction NamespaceCache where
  state := { cache with names := cache.names.insert name () }
  events :=
    if cache.names.contains name then [] else [⟨.debug, "Added namespace", [("name", name)]⟩]

def delete (cache : NamespaceCache) (name : String) : Reaction NamespaceCache where
  state := { cache with names := cache.names.erase name }
  events :=
    if cache.names.contains name then [⟨.debug, "Removed namespace", [("name", name)]⟩] else []

def reset (names : List String) : Reaction NamespaceCache :=
  let names : SortedSet String := .ofList (names.map fun name => (name, ()))
  { state := { names, synced := true }
    events := [⟨.debug, "Reset", [("namespaces", names.size)]⟩] }

end NamespaceCache

end MeshPolicy
