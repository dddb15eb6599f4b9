import MeshPolicy.Resource.Object
import MeshPolicy.Store.Error

/-! # Stores

A `Store σ ω` gives access to the objects specified by `σ`, inside a world `ω` that every operation
may change. Nothing more is known of a store; `Memory` keeps the contract that its operations are
meant to have.

* `Request`: a write that is asked of a store; `Store.perform` carries it out.
* `Store.inFirst`, `Store.inSecond`: a store inside a pair of worlds.
-/

namespace MeshPolicy
set_option autoImplicit false

structure Store (σ ω : Type) where
  list : ω → Except StoreError (List (Object σ)) × ω
  get : ObjectId → ω → Except StoreError (Option (Object σ)) × ω
  /-- Meant to fail if there is an object of the same identity. -/
  create : Object σ → ω → Except StoreError (Object σ) × ω
  /-- Meant to fail unless the object carries the version of the stored one. -/
  replace : Object σ → ω → Except StoreError (Object σ) × ω
  delete : ObjectId → ω → Except StoreError Unit × ω

/-! ## Writes -/

inductive Action (σ : Type) where
  | create (object : Object σ)
  | replace (object : Object σ)
  | delete

structure Request (σ : Type) where
  id : ObjectId
  action : Action σ

inductive Call where
  | list
  | get
  | create
  | replace
  | delete
  deriving DecidableEq, Repr

def Call.name : Call → String
  | list => "list"
  | get => "get"
  | create => "create"
  | replace => "replace"
  | delete => "delete"

def Request.call {σ : Type} (request : Request σ) : Call :=
  match request.action with
  | .create _ => .create
  | .replace _ => .replace
  | .delete => .delete

/-- The answer to a write without the object it may carry. -/
abbrev WriteOutcome := Except StoreError Unit

namespace Store

variable {σ ω : Type}

def perform (store : Store σ ω) (request : Request σ) (world : ω) : WriteOutcome × ω :=
  match request.action with
  | .create object =>
    let (answer, world) := store.create object world
    (answer.map fun _ => (), world)
  | .replace object =>
    let (answer, world) := store.replace object world
    (answer.map fun _ => (), world)
  | .delete => store.delete request.id world

def inFirst {ω' : Type} (store : Store σ ω) : Store σ (ω × ω') where
  list world := let (answer, first) := store.list world.1; (answer, first, world.2)
  get id world := let (answer, first) := store.get id world.1; (answer, first, world.2)
  create o world := let (answer, first) := store.create o world.1; (answer, first, world.2)
  replace o world := let (answer, first) := store.replace o world.1; (answer, first, world.2)
  delete id world := let (answer, first) := store.delete id world.1; (answer, first, world.2)

def inSecond {ω' : Type} (store : Store σ ω) : Store σ (ω' × ω) where
  list world := let (answer, second) := store.list world.2; (answer, world.1, second)
  get id world := let (answer, second) := store.get id world.2; (answer, world.1, second)
  create o world := let (answer, second) := store.create o world.2; (answer, world.1, second)
  replace o world := let (answer, second) := store.replace o world.2; (answer, world.1, second)
  delete id world := let (answer, second) := store.delete id world.2; (answer, world.1, second)

end Store

end MeshPolicy
