import MeshPolicy.Authority.Domain
import MeshPolicy.Log
import MeshPolicy.Naming
import MeshPolicy.Resource.ServiceRole
import MeshPolicy.Sorted.List
import MeshPolicy.Text.Uppercase

/-! # Access rules granted by assertions

A service role grants what its allowing assertions say: for every path that one of them names, a
rule that permits their methods on that path. Assertions without a path share one rule that names
none.

* `grantedPaths`: the paths, the missing one first and the others ascending.
* `methodsOn`: the upper-case methods on a path, ascending, one for each assertion.
* `Grant.rules`: the object that holds the rules, unless the role's name is malformed.
* `Grant.ruleEvents`: what is logged about the assertions that grant nothing.
-/

namespace MeshPolicy.Grant
set_option autoImplicit false

def allowing (assertions : List Assertion) : List Assertion :=
  assertions.filter fun a => a.effect == .allow

/-- The paths of the allowing assertions, each once and ascending; a missing path comes first. -/
def grantedPaths (assertions : List Assertion) : SortedSet (Option String) :=
  .ofList ((allowing assertions).map fun a => (a.path, ()))

/-- The methods allowed on a path, ascending, one for each allowing assertion. -/
def methodsOn (assertions : List Assertion) (path : Option String) : List String :=
  sortInOrder (((allowing assertions).filter fun a => a.path == path).map fun a =>
    Text.uppercase a.action)

def ruleOn (service : String) (assertions : List Assertion) (path : Option String) : AccessRule where
  services := [service]
  paths := path.toList
  methods := methodsOn assertions path

def accessRules (service : String) (assertions : List Assertion) : ServiceRole where
  rules := (grantedPaths assertions).keys.map (ruleOn service assertions)

/-- The object that grants what the assertions allow to a role, given by its simple name. It is
called like the role, and its service is the role's service account. -/
def rules (ns dnsSuffix role : String) (assertions : List Assertion) :
    Except NamingError (Object ServiceRole) :=
  match Naming.serviceRoleName? role with
  | none => .error (.malformedRoleName role)
  | some name =>
    match Naming.serviceAccount role with
    | .error error => .error error
    | .ok account =>
      .ok (.inNamespace ns name
        (accessRules (Naming.serviceIdentifier account ns dnsSuffix) assertions))

def ruleEvents (role : String) (assertions : List Assertion) : List Log.Event :=
  (assertions.filter fun a => a.effect != .allow).map fun a =>
    ⟨.debug, "Skipping denied assertion", [("role", role), ("resource", a.resource)]⟩

end MeshPolicy.Grant
