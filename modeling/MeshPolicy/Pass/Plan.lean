import MeshPolicy.LiveIndex
import MeshPolicy.Pass.Wanted
import MeshPolicy.Store.Basic

/-! # The plan of a pass

A pass compares what the authority asks for with the objects that it listed. The plan is the whole
sequence of its steps; it is fixed before the first write, so that no outcome of a write changes
what follows.

* `revision?`: how a live object has to change.
* `Step`: a write, or a fact that is logged or counted.
* `plan`: a step for everything that is wanted, then the removal of what nobody wants, except where
  the domain of the namespace could not be looked up.
-/

namespace MeshPolicy
set_option autoImplicit false

/-- The replacement of a live object: none if it has the desired specification already, and
otherwise the desired object under the live one's version. -/
def revision? {σ : Type} [DecidableEq σ] (live desired : Object σ) : Option (Object σ) :=
  if live.spec = desired.spec then none
  else some (desired.withVersion live.metadata.resourceVersion)

namespace Pass

inductive Step where
  | note (event : Log.Event)
  | unavailable (event : Log.Event)
  | malformed (event : Log.Event)
  | rules (request : Request ServiceRole)
  | binding (request : Request RoleBinding)

def objectFields (kind : Kind) (id : ObjectId) : List (String × Log.Value) :=
  [("kind", kind.name), ("id", id.text)]

variable {σ : Type} [Resource σ]

/-! ## Wanted objects -/

/-- The step that makes the object with an identity the desired one. -/
def converge [DecidableEq σ] (step : Request σ → Step) (live : LiveIndex σ) (id : ObjectId)
    (desired : Object σ) : Step :=
  match live.find? id with
  | none => step ⟨id, .create desired⟩
  | some current =>
    match revision? current desired with
    | none => .note ⟨.debug, "Unchanged", objectFields (Resource.kind σ) id⟩
    | some object => step ⟨id, .replace object⟩

def settle (rules : LiveIndex ServiceRole) (bindings : LiveIndex RoleBinding) : Wanted → Step
  | .note event => .note event
  | .unavailable event => .unavailable event
  | .malformed event => .malformed event
  | .rules id object => converge .rules rules id object
  | .binding id object => converge .binding bindings id object

/-! ## Objects that nobody wants -/

/-- The step for a live object that nobody has claimed: it is kept where the domain of its namespace
could not be looked up, and deleted elsewhere. -/
def discard (step : Request σ → Step) (failed : SortedSet String) (id : ObjectId) : Step :=
  let domain := Naming.domainOfNamespace id.ns
  if failed.contains domain then
    .note ⟨.debug, "Domain unavailable; retaining",
      objectFields (Resource.kind σ) id ++ [("domain", .text domain)]⟩
  else step ⟨id, .delete⟩

def sweep (step : Request σ → Step) (failed : SortedSet String) (live : LiveIndex σ)
    (claimed : List ObjectId) : List Step :=
  (live.claimAll claimed).unclaimed.map (discard step failed)

/-! ## The plan -/

/-- The steps that bring the live objects in line with what is wanted. -/
def plan (failed : SortedSet String) (wants : List Wanted) (rules : LiveIndex ServiceRole)
    (bindings : LiveIndex RoleBinding) : List Step :=
  wants.map (settle rules bindings) ++
    sweep .rules failed rules (wants.filterMap Wanted.rulesId?) ++
    sweep .binding failed bindings (wants.filterMap Wanted.bindingId?)

end Pass

end MeshPolicy
