import MeshPolicy.Inclusion
import MeshPolicy.Proofs.Pass.Sent
import MeshPolicy.Proofs.Store.Recording
import Mathlib.Data.List.Basic

/-! # Passes over stores that record

A pass does the same over stores that note what they are asked, and their notes are those that can be
read off its report. So the writes that a report speaks of are the writes that the stores receive.

* `Notes`: what is noted of a write, by either store. `Report.notes`: what a report amounts to.
* `run_recording`: a pass over stores that record.
* `Received`, `run_logging`, `Delivers`: the stores receive just what a pass sends.
* `Inclusion.run_recording`, `Inclusion.run_logging`: the same of the pass over the inclusion list.
-/

namespace MeshPolicy
set_option autoImplicit false

variable {ω α : Type}

namespace Pass

/-! ## Notes -/

structure Notes (α : Type) where
  ofRules : Write ServiceRole → WriteOutcome → α
  ofBinding : Write RoleBinding → WriteOutcome → α

def Notes.ofEntry? (notes : Notes α) : Entry → Option α
  | .rules request outcome => some (notes.ofRules request.toWrite outcome)
  | .binding request outcome => some (notes.ofBinding request.toWrite outcome)
  | _ => none

def Report.notes (notes : Notes α) (report : Report) : List α :=
  report.entries.filterMap notes.ofEntry?

/-- A pass over stores that keep their notes in one list. -/
def recording (notes : Notes α) (pass : Pass ω) : Pass (List α × ω) where
  answers := pass.answers
  namespaces := pass.namespaces
  dnsSuffix := pass.dnsSuffix
  rules := pass.rules.recording notes.ofRules
  bindings := pass.bindings.recording notes.ofBinding

variable (notes : Notes α) (pass : Pass ω)

theorem perform_recording (noted : List α) (world : ω) (step : Step) :
    (pass.recording notes).perform (noted, world) step =
      ((pass.perform world step).1,
        noted ++ (notes.ofEntry? (pass.perform world step).1).toList,
        (pass.perform world step).2) := by
  cases step with
  | rules request =>
    simp only [perform, recording, Store.perform_recording, Notes.ofEntry?, Option.toList_some]
  | binding request =>
    simp only [perform, recording, Store.perform_recording, Notes.ofEntry?, Option.toList_some]
  | _ => simp only [perform, Notes.ofEntry?, Option.toList_none, List.append_nil]

theorem performAll_recording (steps : List Step) (noted : List α) (world : ω) :
    (pass.recording notes).performAll steps (noted, world) =
      ((pass.performAll steps world).1,
        noted ++ (pass.performAll steps world).1.filterMap notes.ofEntry?,
        (pass.performAll steps world).2) := by
  induction steps generalizing noted world with
  | nil => simp only [performAll, List.filterMap_nil, List.append_nil]
  | cons step rest ih =>
    simp only [performAll, perform_recording, ih, List.filterMap_eq_flatMap_toList,
      List.flatMap_cons, List.append_assoc]

/-! ## What a pass leaves in them -/

/-- A pass is the same over stores that record, and they note what its report says. -/
theorem run_recording (noted : List α) (world : ω) :
    (pass.recording notes).run (noted, world) =
      ((pass.run world).1, noted ++ (pass.run world).1.notes notes, (pass.run world).2) := by
  have hrules : (pass.recording notes).rules.list (noted, world) =
      ((pass.rules.list world).1, noted, (pass.rules.list world).2) := rfl
  have hbindings (between : ω) : (pass.recording notes).bindings.list (noted, between) =
      ((pass.bindings.list between).1, noted, (pass.bindings.list between).2) := rfl
  have hplan : (pass.recording notes).planFor = pass.planFor := rfl
  have hfailed : (pass.recording notes).failed = pass.failed := rfl
  unfold run
  rw [hrules]
  rcases pass.rules.list world with ⟨_ | rules, between⟩
  · simp [Report.notes]
  · simp only [hbindings]
    rcases pass.bindings.list between with ⟨_ | bindings, listed⟩
    · simp [Report.notes]
    · simp only [hplan, hfailed]
      cases pass.planFor rules bindings with
      | none => simp [Report.notes]
      | some steps => simp only [performAll_recording, Report.notes]

/-! ## What the stores receive -/

/-- A write that one of the two stores has received. -/
inductive Received where
  | rules (write : Write ServiceRole)
  | binding (write : Write RoleBinding)

def Sent.received : Sent → Received
  | rules request => .rules request.toWrite
  | binding request => .binding request.toWrite

/-- Every write is kept as it was received, whatever becomes of it. -/
def Notes.received : Notes Received where
  ofRules write _ := .rules write
  ofBinding write _ := .binding write

def logging (pass : Pass ω) : Pass (List Received × ω) := pass.recording .received

theorem Report.notes_received (report : Report) :
    report.notes .received = report.sent.map Sent.received := by
  have hentry (entry : Entry) :
      Notes.received.ofEntry? entry = entry.sent?.map Sent.received := by
    cases entry <;> rfl
  rw [sent, notes, List.map_filterMap]
  exact List.filterMap_congr fun entry _ => hentry entry

/-- Over any two stores, what they receive in a pass is what the pass sends: every write of its
report, with the whole object that it carries, once and in the same order. -/
theorem run_logging (log : List Received) (world : ω) :
    pass.logging.run (log, world) =
      ((pass.run world).1, log ++ (pass.run world).1.sent.map Sent.received,
        (pass.run world).2) := by
  rw [logging, run_recording, Report.notes_received]

/-- What a pass sends reaches the stores. -/
def Delivers (pass : Pass ω) (world : ω) : Prop :=
  ∀ log, pass.logging.run (log, world) =
    ((pass.run world).1, log ++ (pass.run world).1.sent.map Sent.received, (pass.run world).2)

theorem delivers (pass : Pass ω) (world : ω) : pass.Delivers world := fun log =>
  run_logging pass log world

end Pass

/-! ## The inclusion list -/

namespace Inclusion

def Report.notes (note : Write Enforcement → WriteOutcome → α) (report : Report) : List α :=
  report.write.toList.map fun w => note w.1.toWrite w.2

theorem run_recording (note : Write Enforcement → WriteOutcome → α) (store : Store Enforcement ω)
    (enabled : List String) (noted : List α) (world : ω) :
    run (store.recording note) enabled (noted, world) =
      ((run store enabled world).1, noted ++ (run store enabled world).1.notes note,
        (run store enabled world).2) := by
  have hget : (store.recording note).get configId (noted, world) =
      ((store.get configId world).1, noted, (store.get configId world).2) := rfl
  unfold run
  rw [hget]
  rcases store.get configId world with ⟨_ | current, after⟩
  · simp [Report.notes]
  · simp only [carryOut]
    cases (decide current enabled).request? with
    | none => simp [Report.notes]
    | some request => simp [Store.perform_recording, Report.notes]

/-- The store receives the one write of the report, or none if there is none. -/
theorem run_logging (store : Store Enforcement ω) (enabled : List String)
    (log : List (Write Enforcement)) (world : ω) :
    run store.logging enabled (log, world) =
      ((run store enabled world).1,
        log ++ (run store enabled world).1.write.toList.map fun w => w.1.toWrite,
        (run store enabled world).2) :=
  run_recording _ store enabled log world

end Inclusion

end MeshPolicy
