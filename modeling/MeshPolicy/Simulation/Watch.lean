import MeshPolicy.Simulation.Basic

/-! # Events of the watches

What the watches on namespaces, services, domains and enforcement configs deliver to a simulation. A
cache takes the event in, its metrics count it, and the loop that depends on it is poked.

* `Delivery`: an event with its resources.
* `Simulation.receive?`: takes an event in, unless a resource has no name where one is needed.
-/

namespace MeshPolicy
set_option autoImplicit false

inductive Delivery where
  | appliedNamespace (name : Option String)
  | deletedNamespace (name : String)
  | listedNamespaces (names : List (Option String))
  | appliedService (service : Service)
  | deletedService (ns name : String)
  | listedServices (services : List Service)
  | appliedDomain (domain : Object SignedDomain)
  | deletedDomain (name : String)
  | listedDomains (domains : List (Object SignedDomain))
  | appliedConfig
  | deletedConfig (name : String)
  | listedConfigs

namespace Simulation

def onNamespaces (sim : Simulation) (event : WatchEvent) (reaction : Reaction NamespaceCache) :
    Simulation :=
  let cluster := { sim.cluster with
    namespaces := reaction.state
    namespaceMetrics := sim.cluster.namespaceMetrics.observe event reaction.state.names.size }
  { sim with cluster := cluster.log reaction.events }

def onServices (sim : Simulation) (event : WatchEvent) (reaction : Reaction ServiceCache) :
    Simulation :=
  let cluster := { sim.cluster with
    services := reaction.state
    serviceMetrics := sim.cluster.serviceMetrics.observe event reaction.state.size }
  { sim with cluster := cluster.log reaction.events }.pokeIf reaction.pokes .onboarding

def onDomains (sim : Simulation) (event : WatchEvent) (reaction : Reaction DomainCache) :
    Simulation :=
  let cluster := { sim.cluster with
    domains := reaction.state
    domainMetrics := sim.cluster.domainMetrics.observe event reaction.state.domains.size }
  { sim with cluster := cluster.log reaction.events }.pokeIf reaction.pokes .rules

/-- Every event of the watch on configs pokes the onboarding loop. -/
def onConfigs (sim : Simulation) (events : List Log.Event) : Simulation :=
  { sim with cluster := sim.cluster.log events }.poke .onboarding

def namedDomain? (domain : Object SignedDomain) : Option (String × SignedDomain) :=
  domain.metadata.name.map fun name => (name, domain.spec)

def receive? (sim : Simulation) : Delivery → Option Simulation
  | .appliedNamespace name =>
    name.map fun name => sim.onNamespaces .applied (sim.cluster.namespaces.apply name)
  | .deletedNamespace name =>
    some (sim.onNamespaces .deleted (sim.cluster.namespaces.delete name))
  | .listedNamespaces names =>
    (names.mapM id).map fun names => sim.onNamespaces .reset (NamespaceCache.reset names)
  | .appliedService service =>
    service.name.map fun name =>
      sim.onServices .applied (sim.cluster.services.apply name service)
  | .deletedService ns name => some (sim.onServices .deleted (sim.cluster.services.delete ns name))
  | .listedServices services => (ServiceCache.reset? services).map (sim.onServices .reset)
  | .appliedDomain domain =>
    (namedDomain? domain).map fun (name, spec) =>
      sim.onDomains .applied (sim.cluster.domains.apply name spec)
  | .deletedDomain name => some (sim.onDomains .deleted (sim.cluster.domains.delete name))
  | .listedDomains domains =>
    (domains.mapM namedDomain?).map fun domains =>
      sim.onDomains .reset (sim.cluster.domains.reset domains)
  | .appliedConfig | .listedConfigs => some (sim.onConfigs [])
  | .deletedConfig name => some (sim.onConfigs [⟨.debug, "Deleted", [("name", name)]⟩])

end Simulation

end MeshPolicy
