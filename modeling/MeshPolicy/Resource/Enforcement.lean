import MeshPolicy.Resource.Object

/-! # Where authorization is enforced

An `Enforcement` config says for which services the mesh enforces authorization: for none, for all,
only for those it includes, or for all but those it excludes. The mesh reads the one config called
`Enforcement.defaultName`.

* `Enforcement.including`: enforcement for the given services only.
* `Enforcement.includedServices`: the included services, if the config is in that mode.
-/

namespace MeshPolicy
set_option autoImplicit false

inductive Mode where
  | off
  | on
  | onWithInclusion
  | onWithExclusion
  deriving DecidableEq, Repr, Inhabited

structure Target where
  services : List String := []
  namespaces : List String := []
  deriving DecidableEq, Repr, Inhabited

structure Enforcement where
  mode : Mode := .off
  inclusion : Option Target := none
  exclusion : Option Target := none
  deriving DecidableEq, Repr, Inhabited

namespace Enforcement

def defaultName : String := "default"

def including (services : List String) : Enforcement :=
  { mode := .onWithInclusion, inclusion := some { services } }

/-- The included services of a config in inclusion mode. -/
def includedServices (spec : Enforcement) : Option (List String) :=
  match spec.mode with
  | .onWithInclusion => spec.inclusion.map Target.services
  | _ => none

theorem includedServices_eq_some {spec : Enforcement} {services : List String} :
    spec.includedServices = some services ↔ ∃ target, spec.mode = .onWithInclusion ∧
      spec.inclusion = some target ∧ target.services = services := by
  unfold includedServices
  cases hmode : spec.mode <;> simp

end Enforcement

/-! ## JSON forms -/

def Mode.name : Mode → String
  | off => "OFF"
  | on => "ON"
  | onWithInclusion => "ON_WITH_INCLUSION"
  | onWithExclusion => "ON_WITH_EXCLUSION"

def Mode.ofName? (name : String) : Option Mode :=
  [Mode.off, .on, .onWithInclusion, .onWithExclusion].find? fun mode => mode.name == name

open Json

instance : Codec Mode where
  encode mode := string mode.name
  decode
    | string name => Mode.ofName? name
    | object [(name, null)] => Mode.ofName? name
    | _ => none

instance : Codec Target where
  encode target := object <|
    [("services", texts target.services)] ++ whenNonempty "namespaces" string target.namespaces
  decode value := do
    let members ← record? ["services", "namespaces"] value
    some
      { services := ← fieldOr [] (list? text?) "services" members
        namespaces := ← fieldOr [] (list? text?) "namespaces" members }

instance : Resource Enforcement where
  kind := .enforcement
  encode spec := object <|
    [("mode", encode spec.mode)] ++ whenSome "inclusion" encode spec.inclusion ++
      whenSome "exclusion" encode spec.exclusion
  decode value := do
    let members ← record? ["mode", "inclusion", "exclusion"] value
    some
      { mode := ← fieldOr .off decode "mode" members
        inclusion := ← optionalField decode "inclusion" members
        exclusion := ← optionalField decode "exclusion" members }

end MeshPolicy
