import MeshPolicy.Resource.Object

/-! # Live objects

The objects of one kind, as they were listed. A wanted object claims the live object of its
identity; what nobody has claimed is left for deletion.

* `LiveIndex.ofObjects?`: indexes a listing; the last object of an identity counts.
* `claim`: the live object of an identity, and the index in which it is claimed.
* `unclaimed`: the identities that nobody has claimed, ascending.
-/

namespace MeshPolicy
set_option autoImplicit false

structure LiveObject (σ : Type) where
  object : Object σ
  claimed : Bool := false

structure LiveIndex (σ : Type) where
  entries : SortedMap ObjectId (LiveObject σ) := ∅

namespace LiveIndex

variable {σ : Type}

/-- The entry of a listed object, which must have a name. -/
def entry? (object : Object σ) : Option (ObjectId × LiveObject σ) :=
  object.id?.map fun id => (id, { object })

/-- Indexes a listing; none if an object in it has no name. -/
def ofObjects? (objects : List (Object σ)) : Option (LiveIndex σ) :=
  (objects.mapM entry?).map fun entries => ⟨.ofList entries⟩

def find? (live : LiveIndex σ) (id : ObjectId) : Option (Object σ) :=
  (live.entries.get? id).map LiveObject.object

def claim (live : LiveIndex σ) (id : ObjectId) : Option (Object σ) × LiveIndex σ :=
  match live.entries.get? id with
  | none => (none, live)
  | some entry => (some entry.object, ⟨live.entries.insert id { entry with claimed := true }⟩)

def claimAll (live : LiveIndex σ) (ids : List ObjectId) : LiveIndex σ :=
  ids.foldl (fun live id => (live.claim id).2) live

/-- The identities of the objects that nobody has claimed, ascending. -/
def unclaimed (live : LiveIndex σ) : List ObjectId :=
  (live.entries.filter fun _ entry => !entry.claimed).keys

end LiveIndex

end MeshPolicy
