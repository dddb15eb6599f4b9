import MeshPolicy.Simulation.Watch

/-! # Steps of a simulation

A `Step` is an event of a watch, a change of the authority or of a store, a pass that is run by
hand, or a question.

* `Simulation.act?`: the answer to a step, and the simulation after it.
* `Simulation.turn?`: the same with a fresh journal, while the workers keep running.

There is no answer when an object has no name where one is needed; the simulation cannot go on then.
-/

namespace MeshPolicy
set_option autoImplicit false

inductive AuthorityChange where
  /-- From now on this domain is answered, whatever the cache holds. -/
  | fix (domain : Domain)
  | unfix (name : String)
  | fail (name reason : String)
  | recover (name : String)

inductive StoreChange where
  | rules (interference : Disturbed.Interference ServiceRole)
  | bindings (interference : Disturbed.Interference RoleBinding)
  | config (interference : Disturbed.Interference Enforcement)

inductive Question where
  | objects
  | domain (name : String)
  | namespaces
  | enabledServices (dnsSuffix : Option String)
  | sizes
  | synced
  | metrics (whole : Bool)

inductive Step where
  | receive (delivery : Delivery)
  | authority (change : AuthorityChange)
  | store (change : StoreChange)
  | ask (question : Question)
  | poke (loop : Loop)
  | sync (loop : Loop)
  /-- What the signals hold is used up. -/
  | takeSignals
  | shutDown
  | wait

inductive Answer where
  | done
  /-- Whether there was something to remove. -/
  | removed (wasThere : Bool)
  | rulesPass (result : Except StoreError Pass.Tally) (rules : List (Object ServiceRole))
      (bindings : List (Object RoleBinding))
  | inclusionPass (result : Except StoreError InclusionOutcome)
      (config : List (Object Enforcement))
  | objects (rules : List (Object ServiceRole)) (bindings : List (Object RoleBinding))
      (config : List (Object Enforcement))
  | domain (answer : Except LookupError Domain)
  | namespaces (names : List String)
  | lines (lines : List String)
  | sizes (namespaces domains services : Nat)
  | synced (namespaces domains services : Bool)
  | signals (rules onboarding : Bool)

/-! ## Changes -/

namespace Cluster

def changeAuthority (cluster : Cluster) : AuthorityChange → Answer × Cluster
  | .fix domain =>
    (.done, { cluster with fixed := cluster.fixed.insert domain.name domain })
  | .unfix name =>
    (.removed (cluster.fixed.contains name),
      { cluster with fixed := cluster.fixed.erase name })
  | .fail name reason => (.done, { cluster with outages := cluster.outages.insert name reason })
  | .recover name =>
    (.removed (cluster.outages.contains name),
      { cluster with outages := cluster.outages.erase name })

def interfere? {σ : Type} (store : Disturbed σ) (interference : Disturbed.Interference σ) :
    Option (Answer × Disturbed σ) :=
  let answer := match interference with
    | .remove id => .removed (store.holds id)
    | _ => .done
  (store.interfere interference).toOption.map fun store => (answer, store)

def changeStore? (cluster : Cluster) : StoreChange → Option (Answer × Cluster)
  | .rules interference =>
    (interfere? cluster.rules interference).map fun (answer, rules) =>
      (answer, { cluster with rules })
  | .bindings interference =>
    (interfere? cluster.bindings interference).map fun (answer, bindings) =>
      (answer, { cluster with bindings })
  | .config interference =>
    (interfere? cluster.config interference).map fun (answer, config) =>
      (answer, { cluster with config })

/-! ## Passes by hand -/

def sync (cluster : Cluster) : Loop → Answer × Cluster
  | .rules =>
    let (result, cluster) := cluster.syncRules
    (.rulesPass result cluster.rules.memory.list cluster.bindings.memory.list, cluster)
  | .onboarding =>
    let (result, cluster) := cluster.syncInclusion
    (.inclusionPass result cluster.config.memory.list, cluster)

/-! ## Questions -/

def ask (cluster : Cluster) : Question → Answer
  | .objects =>
    .objects cluster.rules.memory.list cluster.bindings.memory.list cluster.config.memory.list
  | .domain name => .domain (cluster.domains.get name)
  | .namespaces => .namespaces cluster.namespaces.names.keys
  | .enabledServices dnsSuffix =>
    .lines (cluster.services.enabledServices (dnsSuffix.getD cluster.dnsSuffix))
  | .sizes =>
    .sizes cluster.namespaces.names.size cluster.domains.domains.size cluster.services.size
  | .synced => .synced cluster.namespaces.synced cluster.domains.synced cluster.services.synced
  | .metrics whole => .lines (Metrics.exposition whole cluster.families)

end Cluster

namespace Simulation

/-- What the signals hold; that is used up. -/
def takeSignals (sim : Simulation) : Answer × Simulation :=
  let (rules, rulesSignal) := sim.rulesWorker.loop.signal.take
  let (onboarding, inclusionSignal) := sim.inclusionWorker.loop.signal.take
  (.signals rules onboarding,
    { sim with
      rulesWorker.loop.signal := rulesSignal
      inclusionWorker.loop.signal := inclusionSignal })

def shutDown (sim : Simulation) : Simulation :=
  { sim with
    rulesWorker := sim.rulesWorker.deliver .shutDown
    inclusionWorker := sim.inclusionWorker.deliver .shutDown }

def onCluster (sim : Simulation) (answered : Answer × Cluster) : Answer × Simulation :=
  (answered.1, { sim with cluster := answered.2 })

def act? (sim : Simulation) : Step → Option (Answer × Simulation)
  | .receive delivery => (sim.receive? delivery).map fun sim => (.done, sim)
  | .authority change => some (sim.onCluster (sim.cluster.changeAuthority change))
  | .store change => (sim.cluster.changeStore? change).map sim.onCluster
  | .ask question => some (sim.cluster.ask question, sim)
  | .poke loop => some (.done, sim.poke loop)
  | .sync loop => some (sim.onCluster (sim.cluster.sync loop))
  | .takeSignals => some sim.takeSignals
  | .shutDown => some (.done, sim.shutDown)
  | .wait => some (.done, sim)

def clearJournal (sim : Simulation) : Simulation :=
  { sim with cluster := { sim.cluster with journal := {} } }

/-- Carries a step out, after which the workers run for some milliseconds, if they run at all. The
journal then holds what happened since the step. -/
def turn? (sim : Simulation) (step : Step) (millis : Option Nat) : Option (Answer × Simulation) :=
  (sim.clearJournal.act? step).map fun answered =>
    (answered.1,
      match millis with
      | none => answered.2
      | some millis => answered.2.advance millis)

end Simulation

end MeshPolicy
