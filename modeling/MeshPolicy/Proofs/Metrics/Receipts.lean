import MeshPolicy.Proofs.Pass.Interleaving
import MeshPolicy.Proofs.Pass.Tallies

/-! # Stores that file receipts

The stores know best what was written: a store can file a receipt of every write. A pass over such
stores does the same as without, and the receipts are those that can be read off its report.

* `Store.receipting`: a store that files receipts.
* `Pass.Controller.sync_receipting`, `Inclusion.run_receipting`: the two kinds of passes over them.
-/

namespace MeshPolicy
set_option autoImplicit false

variable {ω : Type}

/-- A store that files a receipt of every write, after the earlier ones. -/
def Store.receipting {σ : Type} [Resource σ] (store : Store σ ω) : Store σ (List Receipt × ω) :=
  let file {α : Type} (call : Call) (receipts : List Receipt) (answer : Except StoreError α) :=
    receipts ++ [⟨Resource.kind σ, call, answer.map fun _ => ()⟩]
  { store.inSecond with
    create := fun object world =>
      let (answer, after) := store.create object world.2
      (answer, file .create world.1 answer, after)
    replace := fun object world =>
      let (answer, after) := store.replace object world.2
      (answer, file .replace world.1 answer, after)
    delete := fun id world =>
      let (answer, after) := store.delete id world.2
      (answer, file .delete world.1 answer, after) }

/-- A receipt is a note of the write that says how it was called and answered. -/
def Write.receipt {σ : Type} [Resource σ] (write : Write σ) (outcome : WriteOutcome) : Receipt :=
  ⟨Resource.kind σ, write.call, outcome⟩

theorem Store.receipting_eq {σ : Type} [Resource σ] (store : Store σ ω) :
    store.receipting = store.recording Write.receipt := rfl

theorem Request.receipt_toWrite {σ : Type} [Resource σ] (request : Request σ)
    (outcome : WriteOutcome) : request.toWrite.receipt outcome = request.receipt outcome := by
  rw [Write.receipt, call_toWrite, receipt]

namespace Pass

def Stores.receipting (stores : Stores ω) : Stores (List Receipt × ω) :=
  ⟨stores.rules.receipting, stores.bindings.receipting⟩

def receipting (pass : Pass ω) : Pass (List Receipt × ω) where
  answers := pass.answers
  namespaces := pass.namespaces
  dnsSuffix := pass.dnsSuffix
  rules := pass.rules.receipting
  bindings := pass.bindings.receipting

def Notes.receipts : Notes Receipt := ⟨Write.receipt, Write.receipt⟩

theorem Stores.receipting_eq (stores : Stores ω) : stores.receipting = stores.recording .receipts :=
  rfl

theorem receipting_eq (pass : Pass ω) : pass.receipting = pass.recording .receipts := rfl

theorem Report.notes_receipts (report : Report) : report.notes .receipts = report.receipts := by
  have hentry (entry : Entry) : Notes.receipts.ofEntry? entry = entry.receipt? := by
    cases entry with
    | rules request outcome => exact congrArg some (request.receipt_toWrite outcome)
    | binding request outcome => exact congrArg some (request.receipt_toWrite outcome)
    | _ => rfl
  exact List.filterMap_congr fun entry _ => hentry entry

/-- A pass is the same over stores that file receipts, which are those in its report. -/
theorem run_receipting (pass : Pass ω) (receipts : List Receipt) (world : ω) :
    pass.receipting.run (receipts, world) =
      ((pass.run world).1, receipts ++ (pass.run world).1.receipts, (pass.run world).2) := by
  rw [receipting_eq, run_recording, Report.notes_receipts]

theorem Controller.sync_receipting (c : Controller) (stores : Stores ω) (receipts : List Receipt)
    (world : ω) : c.sync stores.receipting (receipts, world) =
      { report := (c.sync stores world).report
        asked := (c.sync stores world).asked
        world := (receipts ++ (c.sync stores world).report.receipts,
          (c.sync stores world).world) } := by
  rw [Stores.receipting_eq, sync_recording, Report.notes_receipts]

end Pass

namespace Inclusion

def Report.receipts (report : Report) : List Receipt :=
  report.write.toList.map fun w => w.1.receipt w.2

theorem Report.notes_receipt (report : Report) : report.notes Write.receipt = report.receipts := by
  simp only [notes, receipts, Request.receipt_toWrite]

theorem run_receipting (store : Store Enforcement ω) (enabled : List String)
    (receipts : List Receipt) (world : ω) :
    run store.receipting enabled (receipts, world) =
      ((run store enabled world).1, receipts ++ (run store enabled world).1.receipts,
        (run store enabled world).2) := by
  rw [Store.receipting_eq, run_recording, Report.notes_receipt]

end Inclusion

end MeshPolicy
