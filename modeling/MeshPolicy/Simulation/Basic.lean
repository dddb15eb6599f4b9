import MeshPolicy.Simulation.Cluster
import MeshPolicy.Worker.Timed

/-! # The simulation

A `Simulation` is a cluster with the workers of its two loops. The caches poke the workers; a worker
that gets its turns runs passes over the cluster, which take no time.

* `Simulation.poke`: triggers a loop.
* `Simulation.next?`: which worker moves next, and when. At the same time the rules loop comes
  first.
* `Simulation.advance`: lets the workers move for a while.
-/

namespace MeshPolicy
set_option autoImplicit false

structure Simulation where
  now : Nat := 0
  cluster : Cluster := {}
  rulesWorker : Worker := {}
  inclusionWorker : Worker := {}

namespace Simulation

def start (dnsSuffix : String) (policy : RetryPolicy) : Simulation where
  cluster := { dnsSuffix }
  rulesWorker := { policy }
  inclusionWorker := { policy }

def poke (loop : Loop) (sim : Simulation) : Simulation :=
  match loop with
  | .rules => { sim with rulesWorker := sim.rulesWorker.deliver .trigger }
  | .onboarding => { sim with inclusionWorker := sim.inclusionWorker.deliver .trigger }

def pokeIf (reason : Bool) (loop : Loop) (sim : Simulation) : Simulation :=
  if reason then sim.poke loop else sim

/-! ## Passes of the workers -/

/-- A pass as its worker sees it: without duration, and with the text of its error. -/
def passRun {α : Type} (result : Except StoreError α) : PassRun :=
  ⟨0, (result.mapError StoreError.message).map fun _ => ()⟩

def runRules (time : Nat) (cluster : Cluster) : PassRun × Cluster :=
  let (result, cluster) := cluster.syncRules
  let journal := { cluster.journal with
    rulesPasses := cluster.journal.rulesPasses ++ [(time, result)] }
  (passRun result, { cluster with journal })

def runInclusion (time : Nat) (cluster : Cluster) : PassRun × Cluster :=
  let (result, cluster) := cluster.syncInclusion
  let journal := { cluster.journal with
    inclusionPasses := cluster.journal.inclusionPasses ++ [(time, result)] }
  (passRun result, { cluster with journal })

/-! ## The clock -/

def next? (sim : Simulation) : Option (Loop × Nat) :=
  match sim.rulesWorker.due? sim.now, sim.inclusionWorker.due? sim.now with
  | some rules, some inclusion =>
    some (if rules ≤ inclusion then (.rules, rules) else (.onboarding, inclusion))
  | some rules, none => some (.rules, rules)
  | none, some inclusion => some (.onboarding, inclusion)
  | none, none => none

def tick (loop : Loop) (time : Nat) (sim : Simulation) : Simulation :=
  match loop with
  | .rules =>
    let (rulesWorker, cluster, traces) := sim.rulesWorker.tick (runRules time) time sim.cluster
    { sim with now := time, rulesWorker, cluster := cluster.log traces.events }
  | .onboarding =>
    let (inclusionWorker, cluster, traces) :=
      sim.inclusionWorker.tick (runInclusion time) time sim.cluster
    { sim with now := time, inclusionWorker, cluster := cluster.log traces.events }

/-- Makes the moves that are due before the time `limit`, but at most `fuel` of them. -/
def moveUntil (limit : Nat) : (fuel : Nat) → Simulation → Simulation
  | 0, sim => sim
  | fuel + 1, sim =>
    match sim.next? with
    | none => sim
    | some (loop, time) => if time < limit then moveUntil limit fuel (sim.tick loop time) else sim

/-- Lets the workers move for some milliseconds, of which the last one is left to what comes then.
-/
def advance (millis : Nat) (sim : Simulation) : Simulation :=
  let limit := sim.now + millis
  let sim := moveUntil limit (sim.rulesWorker.moveBound + sim.inclusionWorker.moveBound) sim
  { sim with now := limit }

end Simulation

end MeshPolicy
