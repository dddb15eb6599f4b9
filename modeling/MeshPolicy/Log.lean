/-! # Log events

An `Event` has a level, a fixed message and named fields, each a text or a count.
-/

namespace MeshPolicy
set_option autoImplicit false

namespace Log

inductive Level where
  | trace
  | debug
  | info
  | warn
  deriving DecidableEq, Repr

def Level.name : Level → String
  | trace => "TRACE"
  | debug => "DEBUG"
  | info => "INFO"
  | warn => "WARN"

inductive Value where
  | text (value : String)
  | count (value : Nat)
  deriving DecidableEq, Repr

instance : Coe String Value := ⟨.text⟩

instance : Coe Nat Value := ⟨.count⟩

structure Event where
  level : Level
  message : String
  fields : List (String × Value) := []
  deriving DecidableEq, Repr

end Log

end MeshPolicy
