import MeshPolicy.Store.Basic

/-! # Stores that record what they are asked

A report says what was asked of a store. Whether the store was asked is known to the store alone, so a
store can be made to note each write that reaches it, with its own answer.

* `Write`: a write as a store receives it. `Request.toWrite`: that of a request.
* `Store.recording`: a store that notes every write. `perform_recording`: a request is noted once.
* `Store.logging`: a store that keeps every write as it has received it.
-/

namespace MeshPolicy
set_option autoImplicit false

variable {σ ω α : Type}

/-- The operation that is asked of a store, with what it is asked for. -/
inductive Write (σ : Type) where
  | create (object : Object σ)
  | replace (object : Object σ)
  | delete (id : ObjectId)

def Write.call : Write σ → Call
  | create _ => .create
  | replace _ => .replace
  | delete _ => .delete

/-- What reaches a store. A store is not told the identity of a request that carries an object. -/
def Request.toWrite (request : Request σ) : Write σ :=
  match request.action with
  | .create object => .create object
  | .replace object => .replace object
  | .delete => .delete request.id

@[simp] theorem Request.call_toWrite (request : Request σ) : request.toWrite.call = request.call := by
  obtain ⟨id, action⟩ := request
  cases action <;> rfl

namespace Store

/-- A store that notes every write that it receives, and how it ends, after its earlier notes. -/
def recording (note : Write σ → WriteOutcome → α) (store : Store σ ω) : Store σ (List α × ω) :=
  let file {β : Type} (notes : List α) (write : Write σ) (answer : Except StoreError β) :=
    notes ++ [note write (answer.map fun _ => ())]
  { store.inSecond with
    create := fun object world =>
      let (answer, after) := store.create object world.2
      (answer, file world.1 (.create object) answer, after)
    replace := fun object world =>
      let (answer, after) := store.replace object world.2
      (answer, file world.1 (.replace object) answer, after)
    delete := fun id world =>
      let (answer, after) := store.delete id world.2
      (answer, file world.1 (.delete id) answer, after) }

/-- Carrying out a request is asking the store for one write. -/
theorem perform_recording (note : Write σ → WriteOutcome → α) (store : Store σ ω)
    (request : Request σ) (notes : List α) (world : ω) :
    (store.recording note).perform request (notes, world) =
      ((store.perform request world).1,
        notes ++ [note request.toWrite (store.perform request world).1],
        (store.perform request world).2) := by
  obtain ⟨id, action⟩ := request
  cases action with
  | create object => rfl
  | replace object => rfl
  | delete =>
    have hanswer : (store.delete id world).1.map (fun _ => ()) = (store.delete id world).1 := by
      cases (store.delete id world).1 <;> rfl
    simp only [perform, recording, Request.toWrite, hanswer]

/-- A store that keeps every write that it receives. -/
def logging (store : Store σ ω) : Store σ (List (Write σ) × ω) :=
  store.recording fun write _ => write

end Store

end MeshPolicy
