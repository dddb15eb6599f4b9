import MeshPolicy.Metrics.Exposition

/-! # Metrics of the watch caches

How many events of each kind a cache has seen, and how many resources it holds since the last one.
-/

namespace MeshPolicy
set_option autoImplicit false

inductive WatchEvent where
  | applied
  | deleted
  | reset
  deriving DecidableEq, Repr

structure CacheMetrics where
  applies : Nat := 0
  deletes : Nat := 0
  resets : Nat := 0
  /-- The size since the last event; none before the first one. -/
  size : Option Nat := none
  deriving DecidableEq, Repr

namespace CacheMetrics

def observe (metrics : CacheMetrics) (event : WatchEvent) (size : Nat) : CacheMetrics :=
  match event with
  | .applied => { metrics with applies := metrics.applies + 1, size := some size }
  | .deleted => { metrics with deletes := metrics.deletes + 1, size := some size }
  | .reset => { metrics with resets := metrics.resets + 1, size := some size }

open Metrics

/-- The sample of a count that is listed once there is something to count. -/
def samplesOf (kind : String) (count : Nat) : List Sample :=
  if count = 0 then [] else [{ labels := [("kind", kind)], value := count }]

def families (metrics : CacheMetrics) (scope kind : String) : List Family :=
  [{ name := qualified scope "index_size"
     help := "Gauge of the number of resources in the index"
     type := .gauge
     samples := metrics.size.toList.map fun size => { labels := [("kind", kind)], value := size } },
   { name := qualified scope "index_applies"
     help := "Count of applies to the index"
     type := .counter
     samples := samplesOf kind metrics.applies },
   { name := qualified scope "index_deletes"
     help := "Count of deletes to the index"
     type := .counter
     samples := samplesOf kind metrics.deletes },
   { name := qualified scope "index_resets"
     help := "Count of resets to the index"
     type := .counter
     samples := samplesOf kind metrics.resets }]

end CacheMetrics

end MeshPolicy
