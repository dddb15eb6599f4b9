import MeshPolicy.Proofs.Text.Spelling
import MeshPolicy.Proofs.Watch.Replay
import Mathlib.Data.List.Sort
import Mathlib.Data.String.Basic

/-! # The cache of services replays its watch

A service counts as enabled if what the watch said last of it has opted in, and the onboarding loop is
poked by every event.

* `NamedService.OptsIn`: the annotation that asks for enforcement.
* `ServiceEvent`: the events of the watch. `Enables`, `Touches`: what an event says of a service.
* `LastEnabled`: what a history says last of a service.
* `ServiceCache.Tidy`: no namespace is kept without a service.
* `ServiceCache.TakesIn`: all that an event does to the cache. `react?_takesIn`.
* `ServiceCache.pairs`: the enabled services one by one. `nodup_pairs`, `mem_pairs`, `length_pairs`.
* `Simulation.receiveAll?_tracks_services`: a history that a simulation takes in.
-/

namespace MeshPolicy
set_option autoImplicit false

/-! ## Services that have opted in -/

/-- A service as the watch tells of it, which always has a name. -/
structure NamedService where
  ns : String
  name : String
  annotations : TextMap

namespace NamedService

def toService (service : NamedService) : Service :=
  { ns := service.ns, name := some service.name, annotations := service.annotations }

/-- The annotation says `true`, in any case and between any blanks. -/
def OptsIn (service : NamedService) : Prop :=
  ∃ value, service.annotations.get? "authz.istio.io/enabled" = some value ∧
    ∃ core, Text.IsPadded value core ∧ Text.Spells core "true"

theorem isEnabled_toService {service : NamedService} :
    service.toService.isEnabled = true ↔ service.OptsIn := by
  have htrue : ∀ letter ∈ ("true").toList, Text.IsSmall letter := by simp [Text.IsSmall]
  unfold Service.isEnabled OptsIn Service.enforcementAnnotation toService
  cases service.annotations.get? "authz.istio.io/enabled" with
  | none => simp
  | some value =>
    simp only [Text.sameIgnoringCase_iff_spells htrue, Text.spells_trim_iff htrue,
      Option.some.injEq, exists_eq_left']

end NamedService

def Service.named? (service : Service) : Option NamedService :=
  service.name.map fun name => ⟨service.ns, name, service.annotations⟩

theorem Service.eq_toService_of_named? {service : Service} {named : NamedService}
    (h : service.named? = some named) : service = named.toService := by
  obtain ⟨name, hname, rfl⟩ := Option.map_eq_some_iff.1 h
  cases service
  cases hname
  rfl

/-! ## Events -/

/-- An event of the watch on services, all of which have a name. -/
inductive ServiceEvent where
  | applied (service : NamedService)
  | deleted (ns name : String)
  | listed (services : List NamedService)

namespace ServiceEvent

/-- The event says that the service has opted in. A service that is listed more than once has opted in
if one of its listings has. -/
def Enables (ns name : String) : ServiceEvent → Prop
  | applied service => (service.ns = ns ∧ service.name = name) ∧ service.OptsIn
  | deleted _ _ => False
  | listed services =>
    ∃ service ∈ services, (service.ns = ns ∧ service.name = name) ∧ service.OptsIn

/-- The event says something of the service. A listing does so of every service: one that it leaves
out is gone. -/
def Touches (ns name : String) : ServiceEvent → Prop
  | applied service => service.ns = ns ∧ service.name = name
  | deleted n m => n = ns ∧ m = name
  | listed _ => True

theorem Enables.touches {event : ServiceEvent} {ns name : String} (h : event.Enables ns name) :
    event.Touches ns name := by
  cases event with
  | applied service => exact h.1
  | deleted n m => exact h.elim
  | listed services => trivial

end ServiceEvent

/-- The latest event that says something of the service says that it has opted in. -/
def LastEnabled (events : List ServiceEvent) (ns name : String) : Prop :=
  ∃ before event after, events = before ++ event :: after ∧ event.Enables ns name ∧
    ∀ later ∈ after, ¬ later.Touches ns name

theorem not_lastEnabled_nil {ns name : String} : ¬ LastEnabled [] ns name := by
  rintro ⟨before, event, after, hevents, _⟩
  simp at hevents

theorem lastEnabled_cons {event : ServiceEvent} {rest : List ServiceEvent} {ns name : String} :
    LastEnabled (event :: rest) ns name ↔
      (event.Enables ns name ∧ ∀ later ∈ rest, ¬ later.Touches ns name) ∨
        LastEnabled rest ns name := by
  constructor
  · rintro ⟨before, enabling, after, hevents, henables, hafter⟩
    cases before with
    | nil =>
      cases hevents
      exact .inl ⟨henables, hafter⟩
    | cons first before =>
      cases hevents
      exact .inr ⟨before, enabling, after, rfl, henables, hafter⟩
  · rintro (⟨henables, hrest⟩ | ⟨before, enabling, after, rfl, henables, hafter⟩)
    · exact ⟨[], event, rest, rfl, henables, hrest⟩
    · exact ⟨event :: before, enabling, after, rfl, henables, hafter⟩

/-! ## One event -/

namespace ServiceCache

variable (cache : ServiceCache)

/-- No namespace is kept without a service. -/
def Tidy : Prop := ∀ ns names, cache.enabled.get? ns = some names → names.isEmpty = false

theorem contains_insert {names : SortedSet String} {name other : String} :
    (names.insert name ()).contains other = true ↔ name = other ∨ names.contains other = true := by
  rw [SortedMap.contains, SortedMap.get?_insert]
  by_cases h : other = name
  · simp [h]
  · simp [h, Ne.symm h, SortedMap.contains]

theorem contains_erase {names : SortedSet String} {name other : String} :
    (names.erase name).contains other = true ↔ name ≠ other ∧ names.contains other = true := by
  rw [SortedMap.contains, SortedMap.get?_erase]
  by_cases h : other = name
  · simp [h]
  · simp [h, Ne.symm h, SortedMap.contains]

theorem eq_empty_of_isEmpty {names : SortedSet String} (h : names.isEmpty = true) : names = ∅ :=
  SortedMap.ext_entries (List.isEmpty_iff.1 h)

theorem namesIn_enable (ns n m : String) : (cache.enable n m).namesIn ns =
    if ns = n then (cache.namesIn n).insert m () else cache.namesIn ns := by
  rw [namesIn, enable, SortedMap.get?_insert]
  split <;> rfl

/-- A namespace that is left without services looks like one that never had any. -/
theorem namesIn_disable (ns n m : String) : (cache.disable n m).namesIn ns =
    if ns = n then (cache.namesIn n).erase m else cache.namesIn ns := by
  unfold disable
  cases hheld : cache.enabled.get? n with
  | none =>
    have hnone : cache.namesIn n = ∅ := by rw [namesIn, hheld, Option.getD_none]
    by_cases hns : ns = n
    · rw [if_pos hns, hns, hnone]
      rfl
    · rw [if_neg hns]
  | some names =>
    have hnames : cache.namesIn n = names := by rw [namesIn, hheld, Option.getD_some]
    rw [hnames]
    dsimp only
    split
    next hempty =>
      rw [namesIn, SortedMap.get?_erase, eq_empty_of_isEmpty hempty]
      split <;> rfl
    next =>
      rw [namesIn, SortedMap.get?_insert]
      split <;> rfl

theorem isEnabled_enable {ns name n m : String} :
    (cache.enable n m).isEnabled ns name = true ↔
      (n = ns ∧ m = name) ∨ cache.isEnabled ns name = true := by
  rw [isEnabled, namesIn_enable, isEnabled]
  by_cases hns : ns = n
  · rw [if_pos hns, hns, contains_insert]
    simp
  · rw [if_neg hns]
    simp [Ne.symm hns]

theorem isEnabled_disable {ns name n m : String} :
    (cache.disable n m).isEnabled ns name = true ↔
      ¬ (n = ns ∧ m = name) ∧ cache.isEnabled ns name = true := by
  rw [isEnabled, namesIn_disable, isEnabled]
  by_cases hns : ns = n
  · rw [if_pos hns, hns, contains_erase]
    simp
  · rw [if_neg hns]
    simp [Ne.symm hns]

theorem isEnabled_enableAll {ns name : String} (services : List (String × String)) :
    (cache.enableAll services).isEnabled ns name = true ↔
      (ns, name) ∈ services ∨ cache.isEnabled ns name = true := by
  induction services generalizing cache with
  | nil => simp [enableAll]
  | cons service rest ih =>
    have hcons : cache.enableAll (service :: rest) =
        (cache.enable service.1 service.2).enableAll rest := rfl
    have hfirst : (ns, name) = service ↔ service.1 = ns ∧ service.2 = name := by
      rw [eq_comm, Prod.ext_iff]
    rw [hcons, ih, isEnabled_enable, List.mem_cons, hfirst, or_left_comm, or_assoc]

variable {cache}

theorem Tidy.enable (h : cache.Tidy) (n m : String) : (cache.enable n m).Tidy := by
  intro ns names hheld
  rw [ServiceCache.enable, SortedMap.get?_insert] at hheld
  split at hheld
  next =>
    cases hheld
    rw [← Bool.not_eq_true]
    intro hempty
    have hmem : ((cache.namesIn n).insert m ()).contains m = true := contains_insert.2 (.inl rfl)
    rw [eq_empty_of_isEmpty hempty] at hmem
    cases hmem
  next => exact h ns names hheld

theorem Tidy.disable (h : cache.Tidy) (n m : String) : (cache.disable n m).Tidy := by
  unfold ServiceCache.disable
  split
  next => exact h
  next =>
    dsimp only
    split
    next =>
      intro ns names hheld
      rw [SortedMap.get?_erase] at hheld
      split at hheld
      next => cases hheld
      next => exact h ns names hheld
    next hnonempty =>
      intro ns names hheld
      rw [SortedMap.get?_insert] at hheld
      split at hheld
      next =>
        cases hheld
        exact Bool.not_eq_true _ ▸ hnonempty
      next => exact h ns names hheld

theorem tidy_empty (synced : Bool) : ({ synced } : ServiceCache).Tidy := by
  intro ns names hheld
  cases hheld

theorem Tidy.enableAll (h : cache.Tidy) (services : List (String × String)) :
    (cache.enableAll services).Tidy := by
  induction services generalizing cache with
  | nil => exact h
  | cons service rest ih => exact ih (h.enable service.1 service.2)

variable (cache)

/-- All that an event does. -/
structure TakesIn (event : ServiceEvent) (reaction : Reaction ServiceCache) : Prop where
  enabled : ∀ ns name, reaction.state.isEnabled ns name = true ↔
    event.Enables ns name ∨ (¬ event.Touches ns name ∧ cache.isEnabled ns name = true)
  tidy : cache.Tidy → reaction.state.Tidy
  pokes : reaction.pokes = true

def react? : ServiceEvent → Option (Reaction ServiceCache)
  | .applied service => some (cache.apply service.name service.toService)
  | .deleted ns name => some (cache.delete ns name)
  | .listed services => reset? (services.map NamedService.toService)

theorem takesIn_delete (ns name : String) :
    cache.TakesIn (.deleted ns name) (cache.delete ns name) where
  enabled n m := by
    rw [delete, isEnabled_disable]
    simp [ServiceEvent.Enables, ServiceEvent.Touches]
  tidy h := h.disable ns name
  pokes := rfl

theorem takesIn_apply (service : NamedService) :
    cache.TakesIn (.applied service) (cache.apply service.name service.toService) := by
  by_cases hopts : service.OptsIn
  · rw [apply, if_pos (NamedService.isEnabled_toService.2 hopts)]
    refine ⟨fun ns name => ?_, fun h => h.enable _ _, rfl⟩
    rw [isEnabled_enable]
    simp only [ServiceEvent.Enables, ServiceEvent.Touches, hopts, and_true]
    exact or_congr_right' fun hother => (and_iff_right hother).symm
  · rw [apply, if_neg (mt NamedService.isEnabled_toService.1 hopts)]
    have hgone := cache.takesIn_delete service.ns service.name
    refine ⟨fun ns name => (hgone.enabled ns name).trans ?_, hgone.tidy, hgone.pokes⟩
    simp [ServiceEvent.Enables, ServiceEvent.Touches, hopts]

/-- Whatever a listing leaves out is gone. -/
theorem reset?_named (services : List NamedService) :
    reset? (services.map NamedService.toService) = some
      { state := enableAll { synced := true }
          ((services.filter fun service => service.toService.isEnabled).map fun service =>
            (service.ns, service.name))
        pokes := true } := by
  have hnames (listing : List NamedService) :
      ((listing.map NamedService.toService).mapM fun (service : Service) =>
        service.name.map fun name => (service.ns, name)) =
          some (listing.map fun service => (service.ns, service.name)) := by
    rw [List.mapM_map]
    exact List.mapM_pure
  rw [reset?, List.filter_map, hnames]
  rfl

theorem takesIn_reset (services : List NamedService) :
    ∃ reaction, reset? (services.map NamedService.toService) = some reaction ∧
      cache.TakesIn (.listed services) reaction := by
  refine ⟨_, reset?_named services, fun ns name => ?_, fun _ => (tidy_empty true).enableAll _, rfl⟩
  have hnone : ({ synced := true } : ServiceCache).isEnabled ns name = false := rfl
  rw [isEnabled_enableAll, hnone, List.mem_map]
  simp only [List.mem_filter, NamedService.isEnabled_toService, Prod.mk.injEq,
    ServiceEvent.Enables, ServiceEvent.Touches, Bool.false_eq_true, or_false, not_true_eq_false,
    false_and]
  exact exists_congr fun service => by rw [and_assoc, and_comm (a := service.OptsIn)]

theorem react?_takesIn (event : ServiceEvent) :
    ∃ reaction, cache.react? event = some reaction ∧ cache.TakesIn event reaction := by
  cases event with
  | applied service => exact ⟨_, rfl, cache.takesIn_apply service⟩
  | deleted ns name => exact ⟨_, rfl, cache.takesIn_delete ns name⟩
  | listed services => exact cache.takesIn_reset services

/-! ## The enabled services one by one -/

/-- The enabled services, by namespace and name. -/
def pairs : List (String × String) :=
  cache.enabled.entries.flatMap fun e => e.2.keys.map fun name => (e.1, name)

theorem mem_pairs {ns name : String} :
    (ns, name) ∈ cache.pairs ↔ cache.isEnabled ns name = true := by
  rw [isEnabled_iff_mem_entries, pairs, List.mem_flatMap]
  constructor
  · rintro ⟨⟨n, names⟩, hmem, hpair⟩
    obtain ⟨m, hm, heq⟩ := List.mem_map.1 hpair
    cases heq
    exact ⟨names, hmem, hm⟩
  · rintro ⟨names, hmem, hname⟩
    exact ⟨(ns, names), hmem, List.mem_map_of_mem hname⟩

theorem nodup_pairs : cache.pairs.Nodup := by
  have hnamespaces : cache.enabled.entries.Pairwise fun e e' => e.1 ≠ e'.1 :=
    List.pairwise_map.1 (SortedMap.nodup_keys cache.enabled)
  refine List.nodup_flatMap.2 ⟨fun e _ => ?_, hnamespaces.imp fun {e e'} hne => ?_⟩
  · exact (SortedMap.nodup_keys e.2).map fun _ _ heq => (Prod.mk.inj heq).2
  · intro pair hpair hpair'
    obtain ⟨_, _, rfl⟩ := List.mem_map.1 hpair
    obtain ⟨_, _, heq⟩ := List.mem_map.1 hpair'
    exact hne (Prod.mk.inj heq).1.symm

theorem length_pairs : cache.pairs.length = cache.size := by
  simp [pairs, size, SortedMap.values, List.length_flatMap, List.flatMap_map]

theorem sorted_enabledServices (dnsSuffix : String) :
    (cache.enabledServices dnsSuffix).Pairwise (· < ·) :=
  (cache.ascending_enabledServices dnsSuffix).imp compare_lt_iff_lt.1

variable {cache}

/-- The identifiers that are listed depend on nothing but which services are enabled. -/
theorem enabledServices_congr {cache' : ServiceCache}
    (h : ∀ ns name, cache.isEnabled ns name = cache'.isEnabled ns name) (dnsSuffix : String) :
    cache.enabledServices dnsSuffix = cache'.enabledServices dnsSuffix := by
  refine (cache.sorted_enabledServices dnsSuffix).eq_of_mem_iff
    (cache'.sorted_enabledServices dnsSuffix) fun identifier => ?_
  simp only [mem_enabledServices, h]

end ServiceCache

/-! ## Simulations -/

/-- What a delivery of the watch on services tells the cache; none if a service has no name. -/
def Delivery.serviceEvent? : Delivery → Option ServiceEvent
  | appliedService service => service.named?.map .applied
  | deletedService ns name => some (.deleted ns name)
  | listedServices services => (services.mapM Service.named?).map .listed
  | _ => none

theorem eq_map_of_mapM_named? {services : List Service} {named : List NamedService}
    (h : services.mapM Service.named? = some named) :
    services = named.map NamedService.toService := by
  induction services generalizing named with
  | nil =>
    cases h
    rfl
  | cons service rest ih =>
    simp only [List.mapM_cons, Option.bind_eq_bind, Option.bind_eq_some_iff, Option.pure_def,
      Option.some.injEq] at h
    obtain ⟨first, hfirst, later, hlater, rfl⟩ := h
    rw [List.map_cons, ← ih hlater, ← Service.eq_toService_of_named? hfirst]

namespace Simulation

variable (sim : Simulation)

/-- The cache takes an event in, and the onboarding loop is poked once. -/
structure TakesInService (next : Simulation) (event : ServiceEvent) : Prop where
  services : ∃ reaction, sim.cluster.services.TakesIn event reaction ∧
    next.cluster.services = reaction.state
  inclusion : next.inclusionWorker = sim.inclusionWorker.deliver .trigger
  rules : next.rulesWorker = sim.rulesWorker

theorem takesInService_onServices (watched : WatchEvent) {event : ServiceEvent}
    {reaction : Reaction ServiceCache} (h : sim.cluster.services.TakesIn event reaction) :
    sim.TakesInService (sim.onServices watched reaction) event := by
  unfold onServices pokeIf
  rw [h.pokes]
  exact ⟨⟨reaction, h, rfl⟩, rfl, rfl⟩

theorem receive?_of_serviceEvent {delivery : Delivery} {event : ServiceEvent}
    (h : delivery.serviceEvent? = some event) :
    ∃ next, sim.receive? delivery = some next ∧ sim.TakesInService next event := by
  obtain ⟨reaction, hreaction, htakes⟩ := sim.cluster.services.react?_takesIn event
  cases delivery with
  | appliedService service =>
    obtain ⟨named, hnamed, rfl⟩ := Option.map_eq_some_iff.1 h
    obtain rfl := Service.eq_toService_of_named? hnamed
    cases hreaction
    exact ⟨_, rfl, sim.takesInService_onServices .applied htakes⟩
  | deletedService ns name =>
    cases h
    cases hreaction
    exact ⟨_, rfl, sim.takesInService_onServices .deleted htakes⟩
  | listedServices services =>
    obtain ⟨named, hnamed, rfl⟩ := Option.map_eq_some_iff.1 h
    obtain rfl := eq_map_of_mapM_named? hnamed
    have hreset : ServiceCache.reset? (named.map NamedService.toService) = some reaction := hreaction
    refine ⟨_, ?_, sim.takesInService_onServices .reset htakes⟩
    rw [receive?, hreset, Option.map_some]
  | _ => cases h

/-- What a history does to the cache and to the two loops. -/
structure Follows (events : List ServiceEvent) (reached : Simulation) : Prop where
  enabled : ∀ ns name, reached.cluster.services.isEnabled ns name = true ↔
    LastEnabled events ns name ∨ ((∀ event ∈ events, ¬ event.Touches ns name) ∧
      sim.cluster.services.isEnabled ns name = true)
  tidy : sim.cluster.services.Tidy → reached.cluster.services.Tidy
  pokes : reached.inclusionWorker =
    events.foldl (fun worker _ => worker.deliver .trigger) sim.inclusionWorker
  rules : reached.rulesWorker = sim.rulesWorker

variable {sim}

theorem follows_nil : sim.Follows [] sim where
  enabled ns name := by simp [not_lastEnabled_nil]
  tidy h := h
  pokes := rfl
  rules := rfl

theorem Follows.cons {next reached : Simulation} {event : ServiceEvent} {rest : List ServiceEvent}
    (hnext : sim.TakesInService next event) (h : next.Follows rest reached) :
    sim.Follows (event :: rest) reached := by
  obtain ⟨⟨reaction, htakes, hservices⟩, hinclusion, hrules⟩ := hnext
  refine ⟨fun ns name => ?_, fun htidy => h.tidy (hservices ▸ htakes.tidy htidy), ?_, ?_⟩
  · rw [h.enabled, hservices, htakes.enabled, lastEnabled_cons, List.forall_mem_cons]
    constructor
    · rintro (hlast | ⟨hrest, henables | ⟨huntouched, hheld⟩⟩)
      · exact .inl (.inr hlast)
      · exact .inl (.inl ⟨henables, hrest⟩)
      · exact .inr ⟨⟨huntouched, hrest⟩, hheld⟩
    · rintro ((⟨henables, hrest⟩ | hlast) | ⟨⟨huntouched, hrest⟩, hheld⟩)
      · exact .inr ⟨hrest, .inl henables⟩
      · exact .inl hlast
      · exact .inr ⟨hrest, .inr ⟨huntouched, hheld⟩⟩
  · rw [h.pokes, hinclusion, List.foldl_cons]
  · rw [h.rules, hrules]

variable (sim)

theorem receiveAll?_follows {deliveries : List Delivery} {events : List ServiceEvent}
    (h : deliveries.mapM Delivery.serviceEvent? = some events) :
    ∃ reached, sim.receiveAll? deliveries = some reached ∧ sim.Follows events reached := by
  induction deliveries generalizing sim events with
  | nil =>
    cases h
    exact ⟨sim, rfl, follows_nil⟩
  | cons delivery rest ih =>
    simp only [List.mapM_cons, Option.bind_eq_bind, Option.bind_eq_some_iff, Option.pure_def,
      Option.some.injEq] at h
    obtain ⟨event, hevent, later, hlater, rfl⟩ := h
    obtain ⟨next, hnext, htakes⟩ := sim.receive?_of_serviceEvent hevent
    obtain ⟨reached, hreached, hfollows⟩ := ih next hlater
    refine ⟨reached, ?_, .cons htakes hfollows⟩
    rw [receiveAll?, List.foldlM_cons, hnext]
    exact hreached

/-- What holds after a history of the watch on services, whatever comes next. -/
structure Tracks (events : List ServiceEvent) (reached : Simulation) : Prop where
  enabled : ∀ ns name, reached.cluster.services.isEnabled ns name = true ↔ LastEnabled events ns name
  nonempty : ∀ ns names, reached.cluster.services.enabled.get? ns = some names → names ≠ ∅
  size : ∃ services : List (String × String), services.Nodup ∧
    (∀ ns name, (ns, name) ∈ services ↔ LastEnabled events ns name) ∧
    reached.cluster.services.size = services.length
  ascending : ∀ dnsSuffix, (reached.cluster.services.enabledServices dnsSuffix).Pairwise (· < ·)
  listed : ∀ dnsSuffix identifier,
    identifier ∈ reached.cluster.services.enabledServices dnsSuffix ↔
      ∃ ns name, LastEnabled events ns name ∧ identifier = name ++ "." ++ ns ++ "." ++ dnsSuffix
  determined : ∀ other : ServiceCache,
    (∀ ns name, other.isEnabled ns name = true ↔ LastEnabled events ns name) →
      ∀ dnsSuffix, other.enabledServices dnsSuffix =
        reached.cluster.services.enabledServices dnsSuffix
  pokes : reached.inclusionWorker =
    events.foldl (fun worker _ => worker.deliver .trigger) sim.inclusionWorker
  rules : reached.rulesWorker = sim.rulesWorker
  next : ∀ delivery event, delivery.serviceEvent? = some event →
    ∃ next, reached.receive? delivery = some next ∧
      reached.inclusionWorker.Poked next.inclusionWorker

variable {sim}

/-- The cache of a fresh simulation replays the deliveries of the watch on services: it lists the
services of which the watch said last that they have opted in, and each event pokes the onboarding loop
once. -/
theorem receiveAll?_tracks_services (hfresh : sim.cluster.services = {})
    {deliveries : List Delivery} {events : List ServiceEvent}
    (h : deliveries.mapM Delivery.serviceEvent? = some events) :
    ∃ reached, sim.receiveAll? deliveries = some reached ∧ sim.Tracks events reached := by
  obtain ⟨reached, hreached, hfollows⟩ := receiveAll?_follows sim h
  have henabled (ns name : String) :
      reached.cluster.services.isEnabled ns name = true ↔ LastEnabled events ns name := by
    have hnone : ({} : ServiceCache).isEnabled ns name = false := rfl
    rw [hfollows.enabled, hfresh, hnone]
    simp
  refine ⟨reached, hreached, henabled, fun ns names hheld hnone => ?_, ?_, fun dnsSuffix => ?_,
    fun dnsSuffix identifier => ?_, fun other hother => ?_, hfollows.pokes, hfollows.rules,
    fun delivery event hevent => ?_⟩
  · have htidy := hfollows.tidy (hfresh ▸ ServiceCache.tidy_empty false) ns names hheld
    rw [hnone] at htidy
    cases htidy
  · exact ⟨_, reached.cluster.services.nodup_pairs,
      fun ns name => (ServiceCache.mem_pairs _).trans (henabled ns name),
      (ServiceCache.length_pairs _).symm⟩
  · exact reached.cluster.services.sorted_enabledServices dnsSuffix
  · rw [ServiceCache.mem_enabledServices]
    simp only [henabled, Naming.serviceIdentifier]
  · refine ServiceCache.enabledServices_congr fun ns name => ?_
    rw [Bool.eq_iff_iff, hother, henabled]
  · obtain ⟨next, hnext, htakes⟩ := reached.receive?_of_serviceEvent hevent
    have hpoked := Worker.poked_deliver reached.inclusionWorker
    rw [← htakes.inclusion] at hpoked
    exact ⟨next, hnext, hpoked⟩

/-! ### A few services

One of two services that are listed has opted in, and is gone later; a third one opts in between. -/

namespace FewServices

def service (ns name value : String) : NamedService :=
  ⟨ns, name, .ofList [("authz.istio.io/enabled", value)]⟩

def events : List ServiceEvent :=
  [.listed [service "shop" "web" "true", service "shop" "db" "false"],
    .applied (service "shop" "cart" " True\t"), .deleted "shop" "web"]

def deliveries : List Delivery :=
  [.listedServices [(service "shop" "web" "true").toService, (service "shop" "db" "false").toService],
    .appliedService (service "shop" "cart" " True\t").toService, .deletedService "shop" "web"]

end FewServices

theorem receiveAll?_tracks_few_services :
    ∃ reached, receiveAll? {} FewServices.deliveries = some reached ∧
      Tracks {} FewServices.events reached :=
  receiveAll?_tracks_services rfl rfl

end Simulation

end MeshPolicy
