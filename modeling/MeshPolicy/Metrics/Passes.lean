import MeshPolicy.Metrics.Counter
import MeshPolicy.Metrics.Exposition
import MeshPolicy.Store.Basic

/-! # Metrics of the passes

How many passes were run, how many writes they sent, and how many domains they could not look up.

* `PassMetrics.countPass`, `countRequest`, `countLookupError`: one more event.
* `writeVerdict`: a deletion of an object that is gone already counts as done.
-/

namespace MeshPolicy
set_option autoImplicit false

inductive Loop where
  | rules
  | onboarding
  deriving DecidableEq, Repr

def Loop.name : Loop → String
  | rules => "rules"
  | onboarding => "onboarding"

inductive Verdict where
  | ok
  | error
  deriving DecidableEq, Repr

def Verdict.name : Verdict → String
  | ok => "ok"
  | error => "error"

def Verdict.of {ε α : Type} : Except ε α → Verdict
  | .ok _ => ok
  | .error _ => error

inductive Operation where
  | create
  | update
  | delete
  deriving DecidableEq, Repr

def Operation.name : Operation → String
  | create => "create"
  | update => "update"
  | delete => "delete"

def Action.operation {σ : Type} : Action σ → Operation
  | .create _ => .create
  | .replace _ => .update
  | .delete => .delete

/-- How a write is counted: to delete what is gone already is no failure. -/
def writeVerdict (operation : Operation) : WriteOutcome → Verdict
  | .error (.notFound _) => if operation = .delete then .ok else .error
  | outcome => .of outcome

structure PassMetrics where
  passes : Counter (Loop × Verdict) := ∅
  writes : Counter (Kind × Operation × Verdict) := ∅
  lookupErrors : Nat := 0
  deriving DecidableEq

namespace PassMetrics

def countPass (metrics : PassMetrics) (loop : Loop) (verdict : Verdict) : PassMetrics :=
  { metrics with passes := metrics.passes.bump (loop, verdict) }

def countWrite (metrics : PassMetrics) (kind : Kind) (operation : Operation)
    (outcome : WriteOutcome) : PassMetrics :=
  { metrics with writes := metrics.writes.bump (kind, operation, writeVerdict operation outcome) }

def countRequest {σ : Type} [Resource σ] (metrics : PassMetrics) (request : Request σ)
    (outcome : WriteOutcome) : PassMetrics :=
  metrics.countWrite (Resource.kind σ) request.action.operation outcome

def countLookupError (metrics : PassMetrics) : PassMetrics :=
  { metrics with lookupErrors := metrics.lookupErrors + 1 }

open Metrics in
def families (metrics : PassMetrics) (scope : Option String) : List Family :=
  [{ name := qualified scope "sync"
     help := "Count of reconciliation passes by controller and result"
     type := .counter
     samples := metrics.passes.entries.map fun e =>
      { labels := [("controller", e.1.1.name), ("result", e.1.2.name)], value := e.2 } },
   { name := qualified scope "writes"
     help := "Count of store writes by object kind, operation and result"
     type := .counter
     samples := metrics.writes.entries.map fun e =>
      { labels := [("kind", e.1.1.name), ("op", e.1.2.1.name), ("result", e.1.2.2.name)]
        value := e.2 } },
   { name := qualified scope "domain_errors"
     help := "Count of authority domain lookups that failed"
     type := .counter
     samples := [{ value := metrics.lookupErrors }] }]

end PassMetrics

end MeshPolicy
