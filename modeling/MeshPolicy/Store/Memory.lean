import MeshPolicy.Store.Basic

/-! # Stores in memory

`Memory` keeps the contract of a store: an identity holds one object, a create never overwrites, a
replacement has to carry the version of the object it replaces, and every storing gives the object a
version that was never used before.

* `Memory.put`: stores an object under a fresh version.
* `Memory.store`: the five operations.
-/

namespace MeshPolicy
set_option autoImplicit false

structure Memory (σ : Type) where
  objects : SortedMap ObjectId (Object σ) := ∅
  /-- The number of versions given so far. -/
  version : Nat := 0

namespace Memory

variable {σ : Type}

def list (memory : Memory σ) : List (Object σ) := memory.objects.values

def get? (memory : Memory σ) (id : ObjectId) : Option (Object σ) := memory.objects.get? id

def put (memory : Memory σ) (id : ObjectId) (object : Object σ) : Object σ × Memory σ :=
  let version := memory.version + 1
  let object := object.withVersion (some (Text.digits version))
  (object, { objects := memory.objects.insert id object, version })

/-- Stores an object under its own identity, whatever is stored there. -/
def seed (memory : Memory σ) (object : Object σ) : Except StoreError (Memory σ) :=
  match object.id? with
  | none => .error .unnamed
  | some id => .ok (memory.put id object).2

def erase (memory : Memory σ) (id : ObjectId) : Memory σ :=
  { memory with objects := memory.objects.erase id }

def create (object : Object σ) (memory : Memory σ) : Except StoreError (Object σ) × Memory σ :=
  match object.id? with
  | none => (.error .unnamed, memory)
  | some id =>
    match memory.get? id with
    | some _ => (.error (.alreadyExists id), memory)
    | none => let (stored, memory) := memory.put id object; (.ok stored, memory)

/-- Whether an object carries the version of the stored one; a missing version equals none. -/
def isCurrent (object stored : Object σ) : Bool :=
  match object.metadata.resourceVersion, stored.metadata.resourceVersion with
  | some version, some current => version == current
  | _, _ => false

def replace (object : Object σ) (memory : Memory σ) : Except StoreError (Object σ) × Memory σ :=
  match object.id? with
  | none => (.error .unnamed, memory)
  | some id =>
    match memory.get? id with
    | none => (.error (.notFound id), memory)
    | some stored =>
      if isCurrent object stored then
        let (stored, memory) := memory.put id object
        (.ok stored, memory)
      else (.error (.conflict id), memory)

def delete (id : ObjectId) (memory : Memory σ) : Except StoreError Unit × Memory σ :=
  match memory.get? id with
  | none => (.error (.notFound id), memory)
  | some _ => (.ok (), memory.erase id)

def store : Store σ (Memory σ) where
  list memory := (.ok memory.list, memory)
  get id memory := (.ok (memory.get? id), memory)
  create := create
  replace := replace
  delete := delete

end Memory

end MeshPolicy
