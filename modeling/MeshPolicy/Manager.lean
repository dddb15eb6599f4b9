import MeshPolicy.Pass.Report

/-! # Managing the objects of one kind

A `Manager` lists the objects of a store and writes them one by one. It counts its writes and keeps
the index of its last listing, against which later updates can be made.

* `list`: a fresh index. A listing that fails leaves the old index in place.
* `create`, `delete`: one write.
* `update`, `updateListed`: a replacement of a live object, sent only if its specification has to
  change.
-/

namespace MeshPolicy
set_option autoImplicit false

structure Manager (σ ω : Type) where
  world : ω
  live : LiveIndex σ := {}
  metrics : PassMetrics := {}
  writes : List WriteRecord := []

namespace Manager

variable {σ ω : Type} [Resource σ]

inductive Update where
  | updated
  | unchanged
  /-- The last listing did not hold the object. -/
  | unclaimed
  deriving DecidableEq, Repr

def Update.name : Update → String
  | updated => "Updated"
  | unchanged => "Unchanged"
  | unclaimed => "Unclaimed"

def list (store : Store σ ω) (manager : Manager σ ω) :
    Except StoreError (List ObjectId) × Manager σ ω :=
  let (answer, world) := store.list manager.world
  match answer with
  | .error error => (.error error, { manager with world })
  | .ok objects =>
    match LiveIndex.ofObjects? objects with
    | none => (.error .unnamed, { manager with world })
    | some live => (.ok live.entries.keys, { manager with world, live })

def write (store : Store σ ω) (manager : Manager σ ω) (request : Request σ) :
    WriteOutcome × Manager σ ω :=
  let (outcome, world) := store.perform request manager.world
  (outcome,
    { manager with
      world
      metrics := manager.metrics.countRequest request outcome
      writes := manager.writes ++ [request.record outcome] })

def create (store : Store σ ω) (manager : Manager σ ω) (object : Object σ) :
    WriteOutcome × Manager σ ω :=
  match object.id? with
  | none => (.error .unnamed, manager)
  | some id => manager.write store ⟨id, .create object⟩

/-- Replaces a live object by the desired one, unless it has its specification already. -/
def update [DecidableEq σ] (store : Store σ ω) (manager : Manager σ ω)
    (live desired : Object σ) : Except StoreError Update × Manager σ ω :=
  match revision? live desired with
  | none => (.ok .unchanged, manager)
  | some object =>
    match object.id? with
    | none => (.error .unnamed, manager)
    | some id =>
      let (outcome, manager) := manager.write store ⟨id, .replace object⟩
      (outcome.map fun _ => .updated, manager)

theorem update_of_eq [DecidableEq σ] (store : Store σ ω) (manager : Manager σ ω)
    {live desired : Object σ} (h : live.spec = desired.spec) :
    manager.update store live desired = (.ok .unchanged, manager) := by
  rw [update, revision?, if_pos h]

/-- An object that has to change is replaced under the version of the live one: the store is asked
once, and its answer is what is counted, kept and returned. -/
theorem update_of_ne [DecidableEq σ] {store : Store σ ω} {manager : Manager σ ω}
    {live desired : Object σ} {id : ObjectId} {answer : Except StoreError (Object σ)} {world : ω}
    (h : live.spec ≠ desired.spec) (hid : desired.id? = some id)
    (hanswer : store.replace (desired.withVersion live.metadata.resourceVersion) manager.world =
      (answer, world)) :
    manager.update store live desired =
      (answer.map fun _ => .updated,
        { manager with
          world
          metrics := manager.metrics.countWrite (Resource.kind σ) .update (answer.map fun _ => ())
          writes := manager.writes ++
            [⟨.replace, Resource.kind σ, id, answer.map fun _ => ()⟩] }) := by
  have hrevised : revision? live desired =
      some (desired.withVersion live.metadata.resourceVersion) := if_neg h
  simp only [update, hrevised, Object.id?_withVersion, hid, write, Store.perform, hanswer]
  cases answer <;> rfl

/-- Updates the object that the last listing holds under the identity of the desired one. -/
def updateListed [DecidableEq σ] (store : Store σ ω) (manager : Manager σ ω)
    (desired : Object σ) : Except StoreError Update × Manager σ ω :=
  match desired.id? with
  | none => (.error .unnamed, manager)
  | some id =>
    let (live, index) := manager.live.claim id
    let manager := { manager with live := index }
    match live with
    | none => (.ok .unclaimed, manager)
    | some live => manager.update store live desired

def delete (store : Store σ ω) (manager : Manager σ ω) (id : ObjectId) :
    WriteOutcome × Manager σ ω :=
  manager.write store ⟨id, .delete⟩

end Manager

end MeshPolicy
