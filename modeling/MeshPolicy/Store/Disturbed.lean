import MeshPolicy.Store.Memory

/-! # Disturbed stores

A memory that other writers and failures interfere with. Before a call is handled, the first pending
race for that call and identity changes the memory and is forgotten; then the first failure that is
set for the call and has uses left makes the call fail without effect.

* `Change`: what another writer does to an object.
* `Fault`: a failure that is set for a call, a number of times.
* `Disturbed.store`: the five operations; a listing counts as a call on the empty identity.
* `Disturbed.interfere`: arranges races and failures, or changes the memory directly.
-/

namespace MeshPolicy
set_option autoImplicit false

/-! ## Other writers -/

inductive Change (σ : Type) where
  /-- Writes the object back as it is, under a fresh version. -/
  | touch
  | remove
  /-- Stores an object under the object's own identity. -/
  | put (object : Object σ)

def Memory.change {σ : Type} (memory : Memory σ) (id : ObjectId) : Change σ → Memory σ
  | .touch =>
    match memory.get? id with
    | some object => (memory.put id object).2
    | none => { memory with version := memory.version + 1 }
  | .remove => memory.erase id
  | .put object =>
    match object.id? with
    | some id => (memory.put id object).2
    | none => memory

structure Race (σ : Type) where
  call : Call
  id : ObjectId
  change : Change σ

/-! ## Failures -/

inductive FaultKind where
  | notFound
  | alreadyExists
  | conflict
  | refused (code : Nat) (reason message : String)

def FaultKind.error (id : ObjectId) : FaultKind → StoreError
  | notFound => .notFound id
  | alreadyExists => .alreadyExists id
  | conflict => .conflict id
  | refused code reason message => .api (.refused { status := "Failure", message, reason, code })

structure Fault where
  call : Call
  /-- The identity that fails; every identity if there is none. -/
  id : Option ObjectId := none
  kind : FaultKind
  uses : Nat := 1

def Fault.strikes (fault : Fault) (call : Call) (id : ObjectId) : Bool :=
  0 < fault.uses && fault.call == call && (fault.id.isNone || fault.id == some id)

/-! ## The store -/

structure Disturbed (σ : Type) where
  memory : Memory σ := {}
  races : List (Race σ) := []
  faults : List Fault := []

namespace Disturbed

variable {σ : Type}

def race (d : Disturbed σ) (call : Call) (id : ObjectId) : Disturbed σ :=
  let isDue (race : Race σ) := race.call == call && race.id == id
  match d.races.find? isDue with
  | none => d
  | some race =>
    { d with memory := d.memory.change id race.change, races := d.races.eraseP isDue }

def spend (call : Call) (id : ObjectId) : List Fault → Option (StoreError × List Fault)
  | [] => none
  | fault :: rest =>
    if fault.strikes call id then
      some (fault.kind.error id, { fault with uses := fault.uses - 1 } :: rest)
    else (spend call id rest).map fun r => (r.1, fault :: r.2)

/-- Carries out a call on the memory, after the interference that is due. -/
def handle {α : Type} (call : Call) (id : ObjectId)
    (act : Memory σ → Except StoreError α × Memory σ) (d : Disturbed σ) :
    Except StoreError α × Disturbed σ :=
  let d := d.race call id
  match spend call id d.faults with
  | some (error, faults) => (.error error, { d with faults })
  | none =>
    let (answer, memory) := act d.memory
    (answer, { d with memory })

def handleObject (call : Call) (object : Object σ)
    (act : Object σ → Memory σ → Except StoreError (Object σ) × Memory σ) (d : Disturbed σ) :
    Except StoreError (Object σ) × Disturbed σ :=
  match object.id? with
  | none => (.error .unnamed, d)
  | some id => handle call id (act object) d

def store : Store σ (Disturbed σ) where
  list := handle .list ⟨"", ""⟩ Memory.store.list
  get id := handle .get id (Memory.store.get id)
  create object := handleObject .create object Memory.create
  replace object := handleObject .replace object Memory.replace
  delete id := handle .delete id (Memory.delete id)

/-! ## Arranging disturbances -/

/-- What is done to a store behind the back of those who use it. -/
inductive Interference (σ : Type) where
  | seed (object : Object σ)
  | remove (id : ObjectId)
  | fault (fault : Fault)
  | race (race : Race σ)

def holds (d : Disturbed σ) (id : ObjectId) : Bool := (d.memory.get? id).isSome

def interfere (d : Disturbed σ) : Interference σ → Except StoreError (Disturbed σ)
  | .seed object => (d.memory.seed object).map fun memory => { d with memory }
  | .remove id => .ok { d with memory := d.memory.erase id }
  | .fault fault => .ok { d with faults := d.faults ++ [fault] }
  | .race race => .ok { d with races := d.races ++ [race] }

end Disturbed

end MeshPolicy
