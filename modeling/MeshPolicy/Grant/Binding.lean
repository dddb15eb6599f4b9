import MeshPolicy.Log
import MeshPolicy.Naming
import MeshPolicy.Resource.RoleBinding

/-! # Bindings granted to members

* `subjects`: the members that can be written as mesh subjects, in order.
* `Grant.binding?`: the object that binds them to the role of the same name, if there are any.
* `Grant.bindingEvents`: what is logged about the others.
-/

namespace MeshPolicy.Grant
set_option autoImplicit false

def subjects (members : List String) : List Subject :=
  members.filterMap fun member => (Naming.memberSubject member).toOption.map Subject.ofUser

/-- The object that binds the members to the role called `name`; none without a subject. -/
def binding? (ns name : String) (members : List String) : Option (Object RoleBinding) :=
  match subjects members with
  | [] => none
  | subjects => some (.inNamespace ns name { subjects, roleRef := .serviceRole name })

def bindingEvents (ns name : String) (members : List String) : List Log.Event :=
  members.filterMap fun member =>
    match Naming.memberSubject member with
    | .ok _ => none
    | .error error => some
      ⟨.warn, "Skipping member",
        [("namespace", ns), ("name", name), ("error", error.message)]⟩

end MeshPolicy.Grant
