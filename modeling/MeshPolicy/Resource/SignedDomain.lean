import MeshPolicy.Resource.Object

/-! # Signed domains

The copy of an authority domain that lives in the cluster: the domain's roles and policies with
their signatures. Signatures are carried along and not checked.

* `Signed.Role.memberNames`: a role's members, each once.
-/

namespace MeshPolicy
set_option autoImplicit false

namespace Signed

structure Member where
  memberName : String
  deriving DecidableEq, Repr, Inhabited

structure Role where
  name : String
  members : List String := []
  roleMembers : List Member := []
  deriving DecidableEq, Repr, Inhabited

structure Assertion where
  role : String
  resource : String
  action : String
  /-- The authority takes a missing effect as `ALLOW`. -/
  effect : Option String := none
  deriving DecidableEq, Repr, Inhabited

structure Policy where
  name : String
  assertions : List Assertion := []
  deriving DecidableEq, Repr, Inhabited

structure PolicyList where
  domain : String := ""
  policies : List Policy := []
  deriving DecidableEq, Repr, Inhabited

structure Policies where
  contents : PolicyList := {}
  signature : Option String := none
  keyId : Option String := none
  deriving DecidableEq, Repr, Inhabited

structure Content where
  name : String
  roles : List Role := []
  policies : Option Policies := none
  deriving DecidableEq, Repr, Inhabited

/-- The first occurrences among the detailed members and then the plain ones. -/
def Role.memberNames (role : Role) : List String :=
  (role.roleMembers.map Member.memberName ++ role.members).eraseDups

end Signed

structure SignedDomain where
  domain : Signed.Content := { name := "" }
  signature : Option String := none
  keyId : Option String := none
  deriving DecidableEq, Repr, Inhabited

/-! ## JSON forms -/

namespace Signed

open Json

instance : Codec Member where
  encode member := object [("memberName", string member.memberName)]
  decode value := do
    let members ← record? ["memberName"] value
    some ⟨← field text? "memberName" members⟩

instance : Codec Role where
  encode role := object <|
    [("name", string role.name)] ++ whenNonempty "members" string role.members ++
      whenNonempty "roleMembers" encode role.roleMembers
  decode value := do
    let members ← record? ["name", "members", "roleMembers"] value
    some
      { name := ← field text? "name" members
        members := ← fieldOr [] (list? text?) "members" members
        roleMembers := ← fieldOr [] (list? decode) "roleMembers" members }

instance : Codec Assertion where
  encode a := object <|
    [("role", string a.role), ("resource", string a.resource), ("action", string a.action)] ++
      whenSome "effect" string a.effect
  decode value := do
    let members ← record? ["role", "resource", "action", "effect"] value
    some
      { role := ← field text? "role" members
        resource := ← field text? "resource" members
        action := ← field text? "action" members
        effect := ← optionalField text? "effect" members }

instance : Codec Policy where
  encode policy := object
    [("name", string policy.name), ("assertions", array (policy.assertions.map encode))]
  decode value := do
    let members ← record? ["name", "assertions"] value
    some
      { name := ← field text? "name" members
        assertions := ← fieldOr [] (list? decode) "assertions" members }

instance : Codec PolicyList where
  encode list := object
    [("domain", string list.domain), ("policies", array (list.policies.map encode))]
  decode value := do
    let members ← record? ["domain", "policies"] value
    some
      { domain := ← fieldOr "" text? "domain" members
        policies := ← fieldOr [] (list? decode) "policies" members }

instance : Codec Policies where
  encode policies := object <|
    [("contents", encode policies.contents)] ++ whenSome "signature" string policies.signature ++
      whenSome "keyId" string policies.keyId
  decode value := do
    let members ← record? ["contents", "signature", "keyId"] value
    some
      { contents := ← fieldOr {} decode "contents" members
        signature := ← optionalField text? "signature" members
        keyId := ← optionalField text? "keyId" members }

instance : Codec Content where
  encode content := object <|
    [("name", string content.name), ("roles", array (content.roles.map encode))] ++
      whenSome "policies" encode content.policies
  decode value := do
    let members ← record? ["name", "roles", "policies"] value
    some
      { name := ← field text? "name" members
        roles := ← fieldOr [] (list? decode) "roles" members
        policies := ← optionalField decode "policies" members }

end Signed

open Json

instance : Resource SignedDomain where
  kind := .signedDomain
  encode spec := object <|
    [("domain", encode spec.domain)] ++ whenSome "signature" string spec.signature ++
      whenSome "keyId" string spec.keyId
  decode value := do
    let members ← record? ["domain", "signature", "keyId"] value
    some
      { domain := ← fieldOr { name := "" } decode "domain" members
        signature := ← optionalField text? "signature" members
        keyId := ← optionalField text? "keyId" members }

end MeshPolicy
