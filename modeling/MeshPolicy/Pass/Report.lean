import MeshPolicy.Metrics.Passes
import MeshPolicy.Pass.Plan

/-! # What a pass reports

A pass leaves one entry for each of its steps, with the outcome if the step was a write. The log,
the tally of outcomes, the metrics and the list of writes are all read off these entries.

* `Entry.event`, `Entry.tally`, `Entry.measure`, `Entry.write?`: what one entry says.
* `Report`: the entries and the result of the pass.
-/

namespace MeshPolicy
set_option autoImplicit false

structure WriteRecord where
  call : Call
  kind : Kind
  id : ObjectId
  outcome : WriteOutcome

def Request.record {σ : Type} [Resource σ] (request : Request σ) (outcome : WriteOutcome) :
    WriteRecord :=
  ⟨request.call, Resource.kind σ, request.id, outcome⟩

namespace Pass

structure Tally where
  created : Nat := 0
  updated : Nat := 0
  deleted : Nat := 0
  failed : Nat := 0
  domainErrors : Nat := 0
  deriving DecidableEq, Repr

inductive Entry where
  | note (event : Log.Event)
  | unavailable (event : Log.Event)
  | malformed (event : Log.Event)
  | rules (request : Request ServiceRole) (outcome : WriteOutcome)
  | binding (request : Request RoleBinding) (outcome : WriteOutcome)

/-! ## The log -/

def writeEvent {σ : Type} [Resource σ] (request : Request σ) (outcome : WriteOutcome) :
    Log.Event :=
  let fields := objectFields (Resource.kind σ) request.id
  let failure (what : String) (error : StoreError) : Log.Event :=
    ⟨.warn, what, fields ++ [("error", .text error.message)]⟩
  match request.action, outcome with
  | .create _, .ok _ => ⟨.info, "Created", fields⟩
  | .create _, .error error => failure "Failed to create" error
  | .replace _, .ok _ => ⟨.info, "Updated", fields⟩
  | .replace _, .error error => failure "Failed to update" error
  | .delete, .ok _ => ⟨.info, "Deleted", fields⟩
  | .delete, .error (.notFound _) => ⟨.debug, "Already deleted", fields⟩
  | .delete, .error error => failure "Failed to delete" error

def Entry.event : Entry → Log.Event
  | note event | unavailable event | malformed event => event
  | rules request outcome => writeEvent request outcome
  | binding request outcome => writeEvent request outcome

/-! ## The tally -/

/-- Counts the outcome of a write. To find an object deleted already counts for nothing. -/
def countWrite {σ : Type} (request : Request σ) (outcome : WriteOutcome) (tally : Tally) : Tally :=
  match request.action, outcome with
  | .create _, .ok _ => { tally with created := tally.created + 1 }
  | .replace _, .ok _ => { tally with updated := tally.updated + 1 }
  | .delete, .ok _ => { tally with deleted := tally.deleted + 1 }
  | .delete, .error (.notFound _) => tally
  | _, .error _ => { tally with failed := tally.failed + 1 }

def Entry.tally (tally : Tally) : Entry → Tally
  | note _ | unavailable _ => tally
  | malformed _ => { tally with failed := tally.failed + 1 }
  | rules request outcome => countWrite request outcome tally
  | binding request outcome => countWrite request outcome tally

/-! ## The metrics -/

def Entry.measure (metrics : PassMetrics) : Entry → PassMetrics
  | note _ | malformed _ => metrics
  | unavailable _ => metrics.countLookupError
  | rules request outcome => metrics.countRequest request outcome
  | binding request outcome => metrics.countRequest request outcome

/-! ## The writes -/

def Entry.write? : Entry → Option WriteRecord
  | note _ | unavailable _ | malformed _ => none
  | rules request outcome => some (request.record outcome)
  | binding request outcome => some (request.record outcome)

/-! ## The report -/

structure Report where
  entries : List Entry := []
  result : Except StoreError Tally

/-- The tally of the entries, with the number of domains that could not be looked up. -/
def tallyOf (failed : SortedSet String) (entries : List Entry) : Tally :=
  { entries.foldl Entry.tally {} with domainErrors := failed.size }

def Tally.event (tally : Tally) : Log.Event :=
  ⟨.info, "Reconciled",
    [("created", tally.created), ("updated", tally.updated), ("deleted", tally.deleted),
      ("failed", tally.failed), ("domain_errors", tally.domainErrors)]⟩

namespace Report

def events (report : Report) : List Log.Event :=
  report.entries.map Entry.event ++
    (match report.result with
      | .ok tally => [tally.event]
      | .error _ => [])

def writes (report : Report) : List WriteRecord := report.entries.filterMap Entry.write?

def measure (metrics : PassMetrics) (report : Report) : PassMetrics :=
  (report.entries.foldl Entry.measure metrics).countPass .rules (.of report.result)

end Report

end Pass

end MeshPolicy
