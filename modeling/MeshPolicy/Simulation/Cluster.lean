import MeshPolicy.Inclusion
import MeshPolicy.Metrics.Caches
import MeshPolicy.Pass.Run
import MeshPolicy.Store.Disturbed
import MeshPolicy.Watch.Domains
import MeshPolicy.Watch.Namespaces
import MeshPolicy.Watch.Services

/-! # The simulated cluster

The watch caches, the authority and the stores that the two loops work on, together with all that
they count and record.

* `Cluster.lookup`: what the authority answers: outages first, then fixed domains, then the cache.
* `Cluster.syncRules`, `Cluster.syncInclusion`: one pass of each loop.
* `Journal`: what was logged and written.
-/

namespace MeshPolicy
set_option autoImplicit false

structure Journal where
  events : List Log.Event := []
  grantWrites : List WriteRecord := []
  inclusionWrites : List WriteRecord := []
  rulesPasses : List (Nat × Except StoreError Pass.Tally) := []
  inclusionPasses : List (Nat × Except StoreError InclusionOutcome) := []

def Journal.writes (journal : Journal) : List WriteRecord :=
  journal.grantWrites ++ journal.inclusionWrites

structure Cluster where
  dnsSuffix : String := "svc.cluster.local"
  namespaces : NamespaceCache := {}
  domains : DomainCache := {}
  services : ServiceCache := {}
  namespaceMetrics : CacheMetrics := {}
  domainMetrics : CacheMetrics := {}
  serviceMetrics : CacheMetrics := {}
  passMetrics : PassMetrics := {}
  /-- The domains whose look-ups fail, with the reasons. -/
  outages : SortedMap String String := ∅
  /-- The domains that are answered whatever the cache holds. -/
  fixed : SortedMap String Domain := ∅
  rules : Disturbed ServiceRole := {}
  bindings : Disturbed RoleBinding := {}
  config : Disturbed Enforcement := {}
  journal : Journal := {}

namespace Cluster

def lookup (cluster : Cluster) : Lookup := fun name =>
  match cluster.outages.get? name with
  | some reason => .error (.unavailable name reason)
  | none =>
    match cluster.fixed.get? name with
    | some domain => .ok domain
    | none => cluster.domains.get name

def log (cluster : Cluster) (events : List Log.Event) : Cluster :=
  { cluster with journal := { cluster.journal with events := cluster.journal.events ++ events } }

/-! ## Passes -/

def rulesPass (cluster : Cluster) : Pass (Disturbed ServiceRole × Disturbed RoleBinding) where
  answers := Pass.answersOf cluster.lookup
  namespaces := cluster.namespaces.names
  dnsSuffix := cluster.dnsSuffix
  rules := Disturbed.store.inFirst
  bindings := Disturbed.store.inSecond

def syncRules (cluster : Cluster) : Except StoreError Pass.Tally × Cluster :=
  let (report, rules, bindings) := cluster.rulesPass.run (cluster.rules, cluster.bindings)
  let journal := { cluster.journal with
    events := cluster.journal.events ++ report.events
    grantWrites := cluster.journal.grantWrites ++ report.writes }
  (report.result,
    { cluster with rules, bindings, journal, passMetrics := report.measure cluster.passMetrics })

def syncInclusion (cluster : Cluster) : Except StoreError InclusionOutcome × Cluster :=
  let enabled := cluster.services.enabledServices cluster.dnsSuffix
  let (report, config) := Inclusion.run Disturbed.store enabled cluster.config
  let journal := { cluster.journal with
    events := cluster.journal.events ++ report.events
    inclusionWrites := cluster.journal.inclusionWrites ++ report.writes }
  (report.result,
    { cluster with config, journal, passMetrics := report.measure cluster.passMetrics })

/-! ## Metrics -/

def families (cluster : Cluster) : List Metrics.Family :=
  cluster.namespaceMetrics.families "namespace" "Namespace" ++
    cluster.domainMetrics.families "domain" Kind.signedDomain.name ++
    cluster.serviceMetrics.families "service" "Service" ++ cluster.passMetrics.families "rbac"

end Cluster

end MeshPolicy
