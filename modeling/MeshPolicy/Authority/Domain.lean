import MeshPolicy.Text.Blank
import MeshPolicy.Text.Quoted
import MeshPolicy.Text.Split

/-! # Domains of the authority

A `Domain` is what one look-up answers: its roles with their members, and the policies whose
assertions grant roles access to resources.

* `Effect.parse`: the effect that a text names, up to the case of its letters.
* `Assertion.path`: the path inside an assertion's resource.
* `Domain.assertionsFor`: all assertions, over all policies, that name a role.
* `LookupError`: why there is no domain to work with.
-/

namespace MeshPolicy
set_option autoImplicit false

/-! ## Effects -/

inductive Effect where
  | allow
  | deny
  deriving DecidableEq, Repr, Inhabited

namespace Effect

def name : Effect → String
  | allow => "ALLOW"
  | deny => "DENY"

/-- A text that names no effect. -/
structure Unknown where
  text : String
  deriving DecidableEq, Repr

def Unknown.message (error : Unknown) : String :=
  "invalid assertion effect: " ++ Text.quoted error.text

/-- The effect that a text names; the case of its letters does not matter. -/
def parse (text : String) : Except Unknown Effect :=
  if Text.sameIgnoringCase text "allow" then .ok allow
  else if Text.sameIgnoringCase text "deny" then .ok deny
  else .error ⟨text⟩

end Effect

/-! ## Snapshots -/

structure Assertion where
  /-- The full name of the role. -/
  role : String
  /-- A method, in any case. -/
  action : String
  /-- `<anything>:<path>`, where `:<path>` may be missing. -/
  resource : String
  effect : Effect := .allow
  deriving DecidableEq, Repr, Inhabited

structure Policy where
  name : String
  assertions : List Assertion := []
  deriving DecidableEq, Repr, Inhabited

structure Role where
  /-- The full name, such as `my.domain:role.service.role.reader`. -/
  name : String
  members : List String := []
  deriving DecidableEq, Repr, Inhabited

structure Domain where
  name : String
  roles : List Role := []
  policies : List Policy := []
  deriving DecidableEq, Repr, Inhabited

/-- All that follows the first `:` of the resource, unless it is empty. -/
def Assertion.path (a : Assertion) : Option String :=
  match Text.splitFirst ':' a.resource.toList with
  | some (_, c :: cs) => some (.ofList (c :: cs))
  | _ => none

/-- The assertions that name the role, policy by policy. -/
def Domain.assertionsFor (domain : Domain) (role : String) : List Assertion :=
  (domain.policies.flatMap Policy.assertions).filter fun a => a.role == role

/-! ## Failed look-ups -/

inductive LookupError where
  | notFound (name : String)
  | unavailable (name reason : String)
  deriving DecidableEq, Repr

def LookupError.message : LookupError → String
  | notFound name => "domain " ++ name ++ " not found"
  | unavailable name reason => "domain " ++ name ++ " is unavailable: " ++ reason

/-- How domains are looked up, by name. -/
abbrev Lookup := String → Except LookupError Domain

end MeshPolicy
