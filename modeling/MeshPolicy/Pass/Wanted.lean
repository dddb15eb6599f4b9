import MeshPolicy.Grant.Binding
import MeshPolicy.Grant.Rules

/-! # What the authority asks for

For every namespace whose domain can be looked up, each service role of the domain asks for one
object of access rules, and for a binding if it has members that can be bound. What is asked for
depends on the authority alone, not on what is stored.

* `Wanted`: one thing asked for, or a fact to be logged on the way.
* `Answers`: what the look-ups of a pass answer.
* `wantedByRole`, `wantedByNamespace`, `wanted`: in the order in which a pass meets them.
* `failedDomains`: the domains that could not be looked up.
-/

namespace MeshPolicy
set_option autoImplicit false

namespace Pass

inductive Wanted where
  | note (event : Log.Event)
  /-- A domain could not be looked up. -/
  | unavailable (event : Log.Event)
  /-- A service role has a malformed name. -/
  | malformed (event : Log.Event)
  | rules (id : ObjectId) (object : Object ServiceRole)
  | binding (id : ObjectId) (object : Object RoleBinding)

/-- What a service role called `name` asks for on behalf of its members. -/
def wantedByMembers (ns name : String) (members : List String) : List Wanted :=
  if members.isEmpty then
    [.note ⟨.debug, "Role has no members; skipping binding", [("namespace", ns), ("name", name)]⟩]
  else
    (Grant.bindingEvents ns name members).map .note ++
      (Grant.binding? ns name members).toList.map (.binding ⟨ns, name⟩)

/-- What a service role called `name` asks for; `simpleName` is its name inside the domain. -/
def wantedByServiceRole (dnsSuffix ns : String) (domain : Domain) (role : Role)
    (simpleName name : String) : List Wanted :=
  let assertions := domain.assertionsFor role.name
  match Grant.rules ns dnsSuffix simpleName assertions with
  | .error error =>
    [.malformed ⟨.warn, "Skipping role",
      [("namespace", ns), ("role", role.name), ("error", error.message)]⟩]
  | .ok object =>
    (Grant.ruleEvents simpleName assertions).map .note ++ .rules ⟨ns, name⟩ object ::
      wantedByMembers ns name role.members

def wantedByRole (dnsSuffix ns : String) (domain : Domain) (role : Role) : List Wanted :=
  match Naming.simpleRoleName? (Naming.domainOfNamespace ns) role.name with
  | none =>
    [.note ⟨.debug, "Role belongs to another domain", [("namespace", ns), ("role", role.name)]⟩]
  | some simpleName =>
    match Naming.serviceRoleName? simpleName with
    | none => [.note ⟨.debug, "Not a service role", [("namespace", ns), ("role", role.name)]⟩]
    | some name => wantedByServiceRole dnsSuffix ns domain role simpleName name

/-- What the look-ups of a pass answer. There is one for each namespace, of the domain that the
namespace stands for. -/
abbrev Answers := String → Except LookupError Domain

/-- The answers of an authority that answers for a domain alike each time. -/
def answersOf (lookup : Lookup) : Answers := fun ns => lookup (Naming.domainOfNamespace ns)

def wantedByNamespace (dnsSuffix : String) (answers : Answers) (ns : String) : List Wanted :=
  match answers ns with
  | .error error =>
    [.unavailable ⟨.warn, "Failed to fetch domain",
      [("namespace", ns), ("domain", Naming.domainOfNamespace ns), ("error", error.message)]⟩]
  | .ok domain => domain.roles.flatMap (wantedByRole dnsSuffix ns domain)

/-- What the authority asks for in the namespaces, in turn. -/
def wanted (dnsSuffix : String) (answers : Answers) (namespaces : List String) : List Wanted :=
  namespaces.flatMap (wantedByNamespace dnsSuffix answers)

/-- The domains of the namespaces that could not be looked up. -/
def failedDomains (answers : Answers) (namespaces : List String) : SortedSet String :=
  .ofList (namespaces.filterMap fun ns =>
    match answers ns with
    | .error _ => some (Naming.domainOfNamespace ns, ())
    | .ok _ => none)

def Wanted.rulesId? : Wanted → Option ObjectId
  | .rules id _ => some id
  | _ => none

def Wanted.bindingId? : Wanted → Option ObjectId
  | .binding id _ => some id
  | _ => none

end Pass

end MeshPolicy
