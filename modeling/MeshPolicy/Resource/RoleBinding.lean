import MeshPolicy.Resource.Object

/-! # Bindings of roles

A `RoleBinding` grants the access rules of the role it refers to, to a list of subjects.
-/

namespace MeshPolicy
set_option autoImplicit false

structure Subject where
  user : Option String := none
  group : Option String := none
  deriving DecidableEq, Repr, Inhabited

structure RoleRef where
  kind : String
  name : String
  deriving DecidableEq, Repr, Inhabited

structure RoleBinding where
  subjects : List Subject := []
  roleRef : RoleRef
  deriving DecidableEq, Repr, Inhabited

def Subject.ofUser (user : String) : Subject := { user := some user }

def RoleRef.serviceRole (name : String) : RoleRef := ⟨Kind.serviceRole.name, name⟩

open Json

instance : Codec Subject where
  encode subject := object <|
    whenSome "user" string subject.user ++ whenSome "group" string subject.group
  decode value := do
    let members ← record? ["user", "group"] value
    some
      { user := ← optionalField text? "user" members
        group := ← optionalField text? "group" members }

instance : Codec RoleRef where
  encode ref := object [("kind", string ref.kind), ("name", string ref.name)]
  decode value := do
    let members ← record? ["kind", "name"] value
    some ⟨← field text? "kind" members, ← field text? "name" members⟩

instance : Resource RoleBinding where
  kind := .roleBinding
  encode spec := object
    [("subjects", array (spec.subjects.map encode)), ("roleRef", encode spec.roleRef)]
  decode value := do
    let members ← record? ["subjects", "roleRef"] value
    some
      { subjects := ← fieldOr [] (list? decode) "subjects" members
        roleRef := ← field decode "roleRef" members }

end MeshPolicy
