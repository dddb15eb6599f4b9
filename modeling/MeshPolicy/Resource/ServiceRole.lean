import MeshPolicy.Resource.Object

/-! # Access rules

A `ServiceRole` is a set of access rules; an `AccessRule` permits methods on paths of services. A
rule without paths or methods is written without them.
-/

namespace MeshPolicy
set_option autoImplicit false

structure AccessRule where
  services : List String := []
  paths : List String := []
  methods : List String := []
  deriving DecidableEq, Repr, Inhabited

structure ServiceRole where
  rules : List AccessRule := []
  deriving DecidableEq, Repr, Inhabited

open Json

instance : Codec AccessRule where
  encode rule := object <|
    [("services", texts rule.services)] ++ whenNonempty "paths" string rule.paths ++
      whenNonempty "methods" string rule.methods
  decode value := do
    let members ← record? ["services", "paths", "methods"] value
    some
      { services := ← fieldOr [] (list? text?) "services" members
        paths := ← fieldOr [] (list? text?) "paths" members
        methods := ← fieldOr [] (list? text?) "methods" members }

instance : Resource ServiceRole where
  kind := .serviceRole
  encode spec := object [("rules", array (spec.rules.map encode))]
  decode value := do
    let members ← record? ["rules"] value
    some { rules := ← fieldOr [] (list? decode) "rules" members }

end MeshPolicy
