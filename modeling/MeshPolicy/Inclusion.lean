import MeshPolicy.Log
import MeshPolicy.Pass.Report
import MeshPolicy.Resource.Enforcement

/-! # The inclusion list

The cluster-wide enforcement config exists only while a service has opted in. Its list is edited in
place: entries of services that are no longer enabled go, new services are appended, and all other
entries keep their positions.

* `edit?`: the edited list, if it differs.
* `revised?`: the edited config, if it differs; a config in another mode is made anew.
* `Decision`, `decide`: the one write that a pass sends, or none.
* `Inclusion.run`: a pass.
-/

namespace MeshPolicy
set_option autoImplicit false

inductive InclusionOutcome where
  | absent
  | created
  | updated
  | unchanged
  | deleted
  deriving DecidableEq, Repr

def InclusionOutcome.name : InclusionOutcome → String
  | absent => "Absent"
  | created => "Created"
  | updated => "Updated"
  | unchanged => "Unchanged"
  | deleted => "Deleted"

namespace Inclusion

/-! ## Editing the list -/

/-- The current list without what is not desired, and with what it lacks at the end; none if nothing
goes and nothing comes. -/
def edit? (current desired : List String) : Option (List String) :=
  let kept := current.filter fun service => desired.contains service
  let added := desired.filter fun service => !current.contains service
  if kept.length = current.length ∧ added = [] then none else some (kept ++ added)

/-- The config that includes exactly the enabled services; none if it is so already. -/
def revised? (spec : Enforcement) (enabled : List String) : Option Enforcement :=
  match spec.mode, spec.inclusion with
  | .onWithInclusion, some target =>
    (edit? target.services enabled).map fun services =>
      { spec with inclusion := some { target with services } }
  | _, _ => some (.including enabled)

/-! ## Deciding -/

inductive Decision where
  | leaveAbsent
  | create (config : Object Enforcement)
  | delete
  | leave
  | replace (config : Object Enforcement)

def decide (current : Option (Object Enforcement)) (enabled : List String) : Decision :=
  match current with
  | none =>
    if enabled.isEmpty then .leaveAbsent
    else .create (.inCluster Enforcement.defaultName (.including enabled))
  | some config =>
    let revised := revised? config.spec enabled
    let services := ((revised.getD config.spec).includedServices).getD []
    if services.isEmpty then .delete
    else
      match revised with
      | none => .leave
      | some spec => .replace { config with spec }

def includedCount (config : Object Enforcement) : Nat :=
  (config.spec.includedServices.getD []).length

def Decision.event? : Decision → Option Log.Event
  | leaveAbsent | leave => none
  | create config =>
    some ⟨.info, "Creating cluster RBAC config", [("services", includedCount config)]⟩
  | delete => some ⟨.info, "No services enabled; deleting cluster RBAC config", []⟩
  | replace config =>
    some ⟨.info, "Updating cluster RBAC config", [("services", includedCount config)]⟩

/-- What is logged about a config that is not in inclusion mode. -/
def resetEvent? (current : Option (Object Enforcement)) : Option Log.Event :=
  match current.map fun config => config.spec.includedServices with
  | some none => some ⟨.info, "Resetting cluster RBAC config to inclusion mode", []⟩
  | _ => none

def configId : ObjectId := ⟨"", Enforcement.defaultName⟩

def Decision.request? : Decision → Option (Request Enforcement)
  | leaveAbsent | leave => none
  | create config => some ⟨configId, .create config⟩
  | delete => some ⟨configId, .delete⟩
  | replace config => some ⟨configId, .replace config⟩

def Decision.outcome : Decision → InclusionOutcome
  | leaveAbsent => .absent
  | create _ => .created
  | delete => .deleted
  | leave => .unchanged
  | replace _ => .updated

/-! ## Running -/

structure Report where
  announced : List Log.Event := []
  write : Option (Request Enforcement × WriteOutcome) := none
  result : Except StoreError InclusionOutcome

/-- To delete what is gone already is as good as deleting it. -/
def settled (request : Request Enforcement) : WriteOutcome → WriteOutcome
  | .error (.notFound id) =>
    match request.action with
    | .delete => .ok ()
    | _ => .error (.notFound id)
  | outcome => outcome

variable {ω : Type}

def carryOut (store : Store Enforcement ω) (announced : List Log.Event) (decision : Decision)
    (world : ω) : Report × ω :=
  match decision.request? with
  | none => ({ announced, result := .ok decision.outcome }, world)
  | some request =>
    let (outcome, world) := store.perform request world
    ({ announced, write := some (request, outcome)
       result := (settled request outcome).map fun _ => decision.outcome }, world)

def run (store : Store Enforcement ω) (enabled : List String) (world : ω) : Report × ω :=
  match store.get configId world with
  | (.error error, world) => ({ result := .error error }, world)
  | (.ok current, world) =>
    let decision := decide current enabled
    carryOut store ((resetEvent? current).toList ++ decision.event?.toList) decision world

namespace Report

def events (report : Report) : List Log.Event :=
  report.announced ++
    (match report.result with
      | .ok outcome => [⟨.debug, "Reconciled", [("outcome", outcome.name)]⟩]
      | .error _ => [])

def writes (report : Report) : List WriteRecord :=
  report.write.toList.map fun w => w.1.record w.2

def measure (metrics : PassMetrics) (report : Report) : PassMetrics :=
  (report.write.toList.foldl (fun metrics w => metrics.countRequest w.1 w.2) metrics).countPass
    .onboarding (.of report.result)

end Report

end Inclusion

end MeshPolicy
