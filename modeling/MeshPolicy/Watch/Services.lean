import MeshPolicy.Naming
import MeshPolicy.Resource.Metadata
import MeshPolicy.Text.Blank
import MeshPolicy.Watch.Reaction

/-! # The cache of services

The services that have opted into enforcement, by namespace; no namespace is kept without a service.
Every event pokes the onboarding loop, whether it changes the enabled set or not.

* `Service.isEnabled`: whether a service has opted in, by its annotation.
* `ServiceCache.enabledServices`: the identifiers of the enabled services, ascending;
  `ascending_enabledServices`, `mem_enabledServices`: each once, and which these are.
* `apply`, `delete`, `reset?`: the events of the watch.
-/

namespace MeshPolicy
set_option autoImplicit false

structure Service where
  ns : String := ""
  name : Option String := none
  annotations : TextMap := ∅

def Service.enforcementAnnotation : String := "authz.istio.io/enabled"

/-- Whether the annotation says `true`, up to blanks around it and to letter case. -/
def Service.isEnabled (service : Service) : Bool :=
  match service.annotations.get? Service.enforcementAnnotation with
  | none => false
  | some value => Text.sameIgnoringCase (Text.trim value) "true"

structure ServiceCache where
  enabled : SortedMap String (SortedSet String) := ∅
  synced : Bool := false

namespace ServiceCache

def namesIn (cache : ServiceCache) (ns : String) : SortedSet String :=
  (cache.enabled.get? ns).getD ∅

def isEnabled (cache : ServiceCache) (ns name : String) : Bool := (cache.namesIn ns).contains name

def enable (cache : ServiceCache) (ns name : String) : ServiceCache :=
  { cache with enabled := cache.enabled.insert ns ((cache.namesIn ns).insert name ()) }

/-- Removes a service, and its namespace if no other service is left in it. -/
def disable (cache : ServiceCache) (ns name : String) : ServiceCache :=
  match cache.enabled.get? ns with
  | none => cache
  | some names =>
    let names := names.erase name
    if names.isEmpty then { cache with enabled := cache.enabled.erase ns }
    else { cache with enabled := cache.enabled.insert ns names }

def size (cache : ServiceCache) : Nat := (cache.enabled.values.flatMap SortedMap.keys).length

def enabledServices (cache : ServiceCache) (dnsSuffix : String) : List String :=
  let identifiers : SortedSet String :=
    .ofList (cache.enabled.entries.flatMap fun e =>
      e.2.keys.map fun name => (Naming.serviceIdentifier name e.1 dnsSuffix, ()))
  identifiers.keys

theorem ascending_enabledServices (cache : ServiceCache) (dnsSuffix : String) :
    Ascending (cache.enabledServices dnsSuffix) :=
  SortedMap.ascending _

theorem isEnabled_iff_mem_entries {cache : ServiceCache} {ns name : String} :
    cache.isEnabled ns name = true ↔
      ∃ names, (ns, names) ∈ cache.enabled.entries ∧ name ∈ names.keys := by
  rw [isEnabled, namesIn, SortedMap.contains_iff_mem_keys]
  simp only [SortedMap.mem_entries]
  cases cache.enabled.get? ns with
  | none => simp [SortedMap.mem_keys]
  | some names => simp

theorem mem_enabledServices {cache : ServiceCache} {dnsSuffix identifier : String} :
    identifier ∈ cache.enabledServices dnsSuffix ↔ ∃ ns name, cache.isEnabled ns name = true ∧
      identifier = Naming.serviceIdentifier name ns dnsSuffix := by
  simp only [enabledServices, SortedMap.mem_keys_ofList, List.map_flatMap, List.map_map,
    List.mem_flatMap, List.mem_map, Function.comp_apply, isEnabled_iff_mem_entries]
  constructor
  · rintro ⟨⟨ns, names⟩, hentry, name, hname, rfl⟩
    exact ⟨ns, name, ⟨names, hentry, hname⟩, rfl⟩
  · rintro ⟨ns, name, ⟨names, hentry, hname⟩, rfl⟩
    exact ⟨(ns, names), hentry, name, hname, rfl⟩

/-! ## Events -/

/-- A service is gone, or has opted out. -/
def delete (cache : ServiceCache) (ns name : String) : Reaction ServiceCache where
  state := cache.disable ns name
  events :=
    if cache.isEnabled ns name then
      [⟨.debug, "Service disabled", [("ns", ns), ("name", name)]⟩]
    else []
  pokes := true

def apply (cache : ServiceCache) (name : String) (service : Service) : Reaction ServiceCache :=
  if service.isEnabled then
    { state := cache.enable service.ns name
      events :=
        if cache.isEnabled service.ns name then []
        else [⟨.debug, "Service enabled", [("name", name)]⟩]
      pokes := true }
  else cache.delete service.ns name

def enableAll (cache : ServiceCache) (services : List (String × String)) : ServiceCache :=
  services.foldl (fun cache service => cache.enable service.1 service.2) cache

/-- A complete listing, in which every enabled service must have a name. -/
def reset? (listing : List Service) : Option (Reaction ServiceCache) :=
  ((listing.filter Service.isEnabled).mapM fun (service : Service) =>
    service.name.map fun name => (service.ns, name)).map fun services =>
      { state := enableAll { synced := true } services
        pokes := true }

end ServiceCache

end MeshPolicy
