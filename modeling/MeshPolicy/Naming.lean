import MeshPolicy.Text.Quoted
import MeshPolicy.Text.Split

/-! # Names shared by the authority and the mesh

* A namespace stands for a domain: `-` is written for `.`, and `--` for `-`
  (`domainOfNamespace`, `namespaceOfDomain`).
* A role `<domain>:role.service.role.<name>` yields mesh objects called `<name>`
  (`simpleRoleName?`, `serviceRoleName?`).
* The service account that a role targets is the last dotted segment of its name
  (`serviceAccount`); a service is addressed as `<name>.<namespace>.<dns suffix>`
  (`serviceIdentifier`).
* A member `<domain>.<name>` is the mesh subject `<domain>/sa/<name>` (`memberSubject`).
-/

namespace MeshPolicy
set_option autoImplicit false

open Text

inductive NamingError where
  | malformedRoleName (role : String)
  | malformedMember (member : String)
  deriving DecidableEq, Repr

def NamingError.message : NamingError → String
  | .malformedRoleName role =>
    "role name " ++ quoted role ++ " does not end in a service account segment"
  | .malformedMember member =>
    "member " ++ quoted member ++ " is not of the form <domain>.<name>"

namespace Naming

/-! ## Namespaces and domains -/

/-- From the left, `--` becomes `-` and any other `-` becomes `.`. -/
def domainChars : List Char → List Char
  | [] => []
  | '-' :: '-' :: rest => '-' :: domainChars rest
  | '-' :: rest => '.' :: domainChars rest
  | c :: rest => c :: domainChars rest

/-- `-` becomes `--` and `.` becomes `-`. -/
def namespaceChars (cs : List Char) : List Char :=
  cs.flatMap fun c => if c = '-' then ['-', '-'] else if c = '.' then ['-'] else [c]

def domainOfNamespace (ns : String) : String := .ofList (domainChars ns.toList)

def namespaceOfDomain (domain : String) : String := .ofList (namespaceChars domain.toList)

/-! ## Roles -/

/-- The role's name without `<domain>:role.`, if the role belongs to the domain. -/
def simpleRoleName? (domain role : String) : Option String :=
  (dropStart? domain role).bind (dropStart? ":role.")

/-- The name of the mesh objects of a service role: what follows `service.role.`, if anything. -/
def serviceRoleName? (simpleName : String) : Option String :=
  (dropStart? "service.role." simpleName).filter fun name => name != ""

/-- The last dotted segment of a role's name, which must not be empty. -/
def serviceAccount (role : String) : Except NamingError String :=
  match splitLast '.' role.toList with
  | some (_, c :: cs) => .ok (.ofList (c :: cs))
  | _ => .error (.malformedRoleName role)

/-! ## Services and members -/

def serviceIdentifier (name ns dnsSuffix : String) : String :=
  name ++ "." ++ ns ++ "." ++ dnsSuffix

/-- The mesh subject of a member: its last dotted segment names an account of the domain before it.
-/
def memberSubject (member : String) : Except NamingError String :=
  match splitLast '.' member.toList with
  | some (d :: ds, n :: ns) => .ok (.ofList (d :: ds) ++ "/sa/" ++ .ofList (n :: ns))
  | _ => .error (.malformedMember member)

end Naming

end MeshPolicy
