import MeshPolicy.Log

/-! # Reactions to watch events

What a cache does about an event: its new state, what it logs, and whether it pokes the trigger of
the loop that depends on it.
-/

namespace MeshPolicy
set_option autoImplicit false

structure Reaction (α : Type) where
  state : α
  events : List Log.Event := []
  pokes : Bool := false

end MeshPolicy
