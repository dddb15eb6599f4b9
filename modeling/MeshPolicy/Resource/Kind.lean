/-! # Kinds of resources

The four kinds that this program stores or watches, with the names under which the API serves them.
-/

namespace MeshPolicy
set_option autoImplicit false

inductive Kind where
  | serviceRole
  | roleBinding
  | enforcement
  | signedDomain
  deriving DecidableEq, Repr, Inhabited

namespace Kind

def name : Kind → String
  | serviceRole => "ServiceRole"
  | roleBinding => "ServiceRoleBinding"
  | enforcement => "ClusterRbacConfig"
  | signedDomain => "AthenzDomain"

def group : Kind → String
  | signedDomain => "athenz.io"
  | _ => "rbac.istio.io"

def version : Kind → String
  | signedDomain => "v1"
  | _ => "v1alpha1"

def plural : Kind → String
  | serviceRole => "serviceroles"
  | roleBinding => "servicerolebindings"
  | enforcement => "clusterrbacconfigs"
  | signedDomain => "athenzdomains"

def isNamespaced : Kind → Bool
  | serviceRole | roleBinding => true
  | enforcement | signedDomain => false

def apiVersion (kind : Kind) : String := kind.group ++ "/" ++ kind.version

/-- Where the API serves the kind, over all namespaces or inside one. -/
def path (kind : Kind) (ns : Option String) : String :=
  "/apis/" ++ kind.apiVersion ++ "/" ++
    (match ns with
      | some ns => "namespaces/" ++ ns ++ "/"
      | none => "") ++
    kind.plural

end Kind

end MeshPolicy
