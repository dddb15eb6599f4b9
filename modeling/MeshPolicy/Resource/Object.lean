import MeshPolicy.Resource.Kind
import MeshPolicy.Resource.Metadata
import MeshPolicy.Resource.ObjectId

/-! # Objects

An object is metadata with a specification. `Resource σ` says which kind of object `σ` specifies and
how it is written.

* `Object.id?`: the identity of an object; none if it has no name.
* `Object.inNamespace`, `Object.inCluster`: a new object.
* the JSON form carries the kind's own API version and kind, which are passed over when read.
-/

namespace MeshPolicy
set_option autoImplicit false

structure Object (σ : Type) where
  metadata : Metadata
  spec : σ
  deriving DecidableEq, Inhabited

class Resource (σ : Type) extends Codec σ where
  kind : Kind

namespace Object

variable {σ : Type}

def id? (object : Object σ) : Option ObjectId :=
  object.metadata.name.map fun name => ⟨object.metadata.ns.getD "", name⟩

def inNamespace (ns name : String) (spec : σ) : Object σ :=
  ⟨{ name := some name, ns := some ns }, spec⟩

def inCluster (name : String) (spec : σ) : Object σ :=
  ⟨{ name := some name }, spec⟩

def withVersion (object : Object σ) (version : Option String) : Object σ :=
  { object with metadata := { object.metadata with resourceVersion := version } }

@[simp] theorem id?_inNamespace (ns name : String) (spec : σ) :
    (inNamespace ns name spec).id? = some ⟨ns, name⟩ := rfl

@[simp] theorem spec_inNamespace (ns name : String) (spec : σ) :
    (inNamespace ns name spec).spec = spec := rfl

@[simp] theorem id?_withVersion (object : Object σ) (version : Option String) :
    (object.withVersion version).id? = object.id? := rfl

@[simp] theorem spec_withVersion (object : Object σ) (version : Option String) :
    (object.withVersion version).spec = object.spec := rfl

@[simp] theorem resourceVersion_withVersion (object : Object σ) (version : Option String) :
    (object.withVersion version).metadata.resourceVersion = version := rfl

open Json

instance [Resource σ] : Codec (Object σ) where
  encode o := object
    [("apiVersion", string (Resource.kind σ).apiVersion), ("kind", string (Resource.kind σ).name),
      ("metadata", encode o.metadata), ("spec", encode o.spec)]
  decode value := do
    let members ← record? ["metadata", "spec"] value
    some ⟨← field decode "metadata" members, ← field decode "spec" members⟩

end Object

end MeshPolicy
