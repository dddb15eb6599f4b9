import MeshPolicy.Proofs.Worker.Pokes
import MeshPolicy.Simulation.Watch

/-! # The cache of domains replays its watch

What the cache answers is what the watch said last, and the rules loop is poked by the events that
change an answer.

* `DomainEvent`: the events of the watch. `Offers`, `Removes`: what an event says of a name.
* `Latest`: what a history says last of a name, since it was removed.
* `DomainCache.react`: what the cache does about an event. `get?_of_offers`, `get?_of_removes`,
  `get?_of_untouched`: the answers after it. `pokes_iff`: whether it pokes.
* `DomainCache.replay`: a history. `get?_replay`: the answers after it.
* `Simulation.receiveAll?`: a history that a simulation takes in. `receiveAll?_replays`: what is
  answered then, and what the next event does.
-/

namespace MeshPolicy
set_option autoImplicit false

/-! ## Events -/

/-- An event of the watch on domains, whose resources all have a name. -/
inductive DomainEvent where
  | applied (name : String) (spec : SignedDomain)
  | deleted (name : String)
  | listed (resources : List (String × SignedDomain))

namespace DomainEvent

/-- The event says what is called `name`; of several resources that are listed by that name, the last
one counts. -/
def Offers (name : String) (spec : SignedDomain) : DomainEvent → Prop
  | applied n s => n = name ∧ s = spec
  | deleted _ => False
  | listed resources => ∃ before after, resources = before ++ (name, spec) :: after ∧
    ∀ r ∈ after, r.1 ≠ name

/-- The event says that nothing is called `name`. -/
def Removes (name : String) : DomainEvent → Prop
  | applied _ _ => False
  | deleted n => n = name
  | listed resources => ∀ r ∈ resources, r.1 ≠ name

/-- The event says something of the name. -/
def Touches (name : String) (event : DomainEvent) : Prop :=
  event.Removes name ∨ ∃ spec, event.Offers name spec

/-- A listing says something of every name. -/
theorem touches_listed (name : String) (resources : List (String × SignedDomain)) :
    (listed resources).Touches name := by
  induction resources with
  | nil => exact .inl fun r hr => absurd hr List.not_mem_nil
  | cons r rest ih =>
    rcases ih with hremoves | ⟨spec, before, after, hrest, hafter⟩
    · by_cases hname : r.1 = name
      · refine .inr ⟨r.2, [], rest, ?_, hremoves⟩
        rw [List.nil_append, ← hname]
      · refine .inl fun x hx => ?_
        rcases List.mem_cons.1 hx with rfl | hx
        · exact hname
        · exact hremoves x hx
    · exact .inr ⟨spec, r :: before, after, by rw [hrest, List.cons_append], hafter⟩

end DomainEvent

/-! ## One event -/

namespace DomainCache

theorem get_eq_ok {cache : DomainCache} {name : String} {domain : Domain} :
    cache.get name = .ok domain ↔ cache.domains.get? name = some domain := by
  unfold get
  cases cache.domains.get? name <;> simp

theorem get_eq_error {cache : DomainCache} {name : String} {error : LookupError} :
    cache.get name = .error error ↔ cache.domains.get? name = none ∧ error = .notFound name := by
  unfold get
  cases cache.domains.get? name <;> simp [eq_comm]

theorem get_eq_get {cache cache' : DomainCache} {name : String} :
    cache.get name = cache'.get name ↔ cache.domains.get? name = cache'.domains.get? name := by
  unfold get
  cases cache.domains.get? name <;> cases cache'.domains.get? name <;> simp

def react (cache : DomainCache) : DomainEvent → Reaction DomainCache
  | .applied name spec => cache.apply name spec
  | .deleted name => cache.delete name
  | .listed resources => cache.reset resources

section Events

variable (cache : DomainCache) {event : DomainEvent} {name : String} {spec : SignedDomain}

theorem get?_apply (n x : String) (s : SignedDomain) :
    (cache.apply n s).state.domains.get? x =
      if x = n then some (.ofSigned n s) else cache.domains.get? x := by
  by_cases hsame : cache.domains.get? n = some (.ofSigned n s)
  · by_cases hx : x = n
    · simp [apply, hsame, hx]
    · simp [apply, hsame, hx]
  · simp [apply, hsame]

theorem get?_delete (n x : String) :
    (cache.delete n).state.domains.get? x = if x = n then none else cache.domains.get? x := by
  unfold delete
  split
  next => exact SortedMap.get?_erase _ _ _
  next habsent =>
    by_cases hx : x = n
    · rw [if_pos hx, hx]
      simpa [SortedMap.contains] using habsent
    · rw [if_neg hx]

theorem get?_reset (resources : List (String × SignedDomain)) (x : String) :
    (cache.reset resources).state.domains.get? x =
      (resources.map fun e => (e.1, Domain.ofSigned e.1 e.2)).reverse.lookup x :=
  SortedMap.get?_ofList _ _

theorem lookup_of_all_ne {resources : List (String × SignedDomain)}
    (h : ∀ r ∈ resources, r.1 ≠ name) :
    (resources.map fun e => (e.1, Domain.ofSigned e.1 e.2)).reverse.lookup name = none := by
  rw [List.lookup_eq_none_iff]
  intro entry hentry
  rw [List.mem_reverse, List.mem_map] at hentry
  obtain ⟨r, hr, rfl⟩ := hentry
  have hne := h r hr
  simpa using Ne.symm hne

theorem get?_of_offers (h : event.Offers name spec) :
    (cache.react event).state.domains.get? name = some (.ofSigned name spec) := by
  cases event with
  | applied n s =>
    obtain ⟨rfl, rfl⟩ := h
    rw [react, get?_apply, if_pos rfl]
  | deleted n => exact h.elim
  | listed resources =>
    obtain ⟨before, after, rfl, hafter⟩ := h
    rw [react, get?_reset, List.map_append, List.reverse_append, List.lookup_append, List.map_cons,
      List.reverse_cons, List.lookup_append, lookup_of_all_ne hafter]
    simp

theorem get?_of_removes (h : event.Removes name) :
    (cache.react event).state.domains.get? name = none := by
  cases event with
  | applied n s => exact h.elim
  | deleted n =>
    have hn : n = name := h
    rw [react, get?_delete, if_pos hn.symm]
  | listed resources => rw [react, get?_reset, lookup_of_all_ne h]

theorem get?_of_untouched (h : ¬ event.Touches name) :
    (cache.react event).state.domains.get? name = cache.domains.get? name := by
  cases event with
  | applied n s =>
    have hne : name ≠ n := fun heq => h (.inr ⟨s, heq.symm, rfl⟩)
    rw [react, get?_apply, if_neg hne]
  | deleted n =>
    have hne : name ≠ n := fun heq => h (.inl heq.symm)
    rw [react, get?_delete, if_neg hne]
  | listed resources => exact absurd (DomainEvent.touches_listed name resources) h

/-- A name is answered with what the event says of it, or as before if it says nothing. -/
theorem get?_react {domain : Domain} :
    (cache.react event).state.domains.get? name = some domain ↔
      (∃ spec, event.Offers name spec ∧ domain = .ofSigned name spec) ∨
        (¬ event.Touches name ∧ cache.domains.get? name = some domain) := by
  constructor
  · intro hheld
    by_cases htouched : event.Touches name
    · rcases htouched with hremoves | ⟨spec, hoffers⟩
      · rw [get?_of_removes cache hremoves] at hheld
        cases hheld
      · rw [get?_of_offers cache hoffers] at hheld
        exact .inl ⟨spec, hoffers, (Option.some.inj hheld).symm⟩
    · rw [get?_of_untouched cache htouched] at hheld
      exact .inr ⟨htouched, hheld⟩
  · rintro (⟨spec, hoffers, rfl⟩ | ⟨huntouched, hheld⟩)
    · exact get?_of_offers cache hoffers
    · rw [get?_of_untouched cache huntouched, hheld]

/-- An event pokes if and only if it changes what is kept. Each of the three events compares something
else before it pokes. -/
theorem pokes_iff_ne (event : DomainEvent) :
    (cache.react event).pokes = true ↔ (cache.react event).state.domains ≠ cache.domains := by
  cases event with
  | applied n s =>
    by_cases hsame : cache.domains.get? n = some (.ofSigned n s)
    · simp [react, apply, hsame]
    · have hchanged : (cache.react (.applied n s)).state.domains ≠ cache.domains := fun heq => by
        apply hsame
        rw [← heq, react, get?_apply, if_pos rfl]
      have hpokes : (cache.react (.applied n s)).pokes = true := by simp [react, apply, hsame]
      exact iff_of_true hpokes hchanged
  | deleted n =>
    by_cases hheld : cache.domains.contains n = true
    · have hchanged : (cache.react (.deleted n)).state.domains ≠ cache.domains := fun heq => by
        rw [SortedMap.contains, ← heq, react, get?_delete, if_pos rfl] at hheld
        cases hheld
      have hpokes : (cache.react (.deleted n)).pokes = true := by simp [react, delete, hheld]
      exact iff_of_true hpokes hchanged
    · simp [react, delete, hheld]
  | listed resources => simp [react, reset]

/-- An event pokes if and only if it changes an answer. -/
theorem pokes_iff (event : DomainEvent) :
    (cache.react event).pokes = true ↔
      ∃ name, (cache.react event).state.get name ≠ cache.get name := by
  have hsame : (cache.react event).state.domains = cache.domains ↔
      ∀ name, (cache.react event).state.get name = cache.get name :=
    ⟨fun h name => get_eq_get.2 (by rw [h]), fun h => SortedMap.ext_get? fun name =>
      get_eq_get.1 (h name)⟩
  rw [pokes_iff_ne, Ne, hsame, Classical.not_forall]

theorem synced_react (event : DomainEvent) :
    (cache.react event).state.synced = true ↔
      cache.synced = true ∨ ∃ resources, event = .listed resources := by
  cases event with
  | applied n s =>
    simp only [react, apply]
    split <;> simp
  | deleted n =>
    simp only [react, delete]
    split <;> simp
  | listed resources => simp [react, reset]

end Events

end DomainCache

/-! ## Histories -/

/-- The history says last of the name that it is `spec`, and has not touched the name since. -/
def Latest (events : List DomainEvent) (name : String) (spec : SignedDomain) : Prop :=
  ∃ before event after, events = before ++ event :: after ∧ event.Offers name spec ∧
    ∀ later ∈ after, ¬ later.Touches name

theorem not_latest_nil {name : String} {spec : SignedDomain} : ¬ Latest [] name spec := by
  rintro ⟨before, event, after, hevents, _⟩
  simp at hevents

/-- An event says last of a name what no later event touches. -/
theorem latest_cons {event : DomainEvent} {rest : List DomainEvent} {name : String}
    {spec : SignedDomain} :
    Latest (event :: rest) name spec ↔
      (event.Offers name spec ∧ ∀ later ∈ rest, ¬ later.Touches name) ∨ Latest rest name spec := by
  constructor
  · rintro ⟨before, offer, after, hevents, hoffers, hafter⟩
    cases before with
    | nil =>
      cases hevents
      exact .inl ⟨hoffers, hafter⟩
    | cons first before =>
      cases hevents
      exact .inr ⟨before, offer, after, rfl, hoffers, hafter⟩
  · rintro (⟨hoffers, hrest⟩ | ⟨before, offer, after, rfl, hoffers, hafter⟩)
    · exact ⟨[], event, rest, rfl, hoffers, hrest⟩
    · exact ⟨event :: before, offer, after, rfl, hoffers, hafter⟩

namespace DomainCache

def replay (cache : DomainCache) (events : List DomainEvent) : DomainCache :=
  events.foldl (fun cache event => (cache.react event).state) cache

theorem replay_cons (cache : DomainCache) (event : DomainEvent) (rest : List DomainEvent) :
    cache.replay (event :: rest) = (cache.react event).state.replay rest := rfl

/-- A name is answered with what the history says last of it, or as before if it says nothing. -/
theorem get?_replay (cache : DomainCache) (events : List DomainEvent) (name : String)
    (domain : Domain) :
    (cache.replay events).domains.get? name = some domain ↔
      (∃ spec, Latest events name spec ∧ domain = .ofSigned name spec) ∨
        ((∀ event ∈ events, ¬ event.Touches name) ∧ cache.domains.get? name = some domain) := by
  -- The cache that the first event leaves is what the rest of the history starts from.
  induction events generalizing cache with
  | nil => simp [replay, not_latest_nil]
  | cons event rest ih =>
    rw [replay_cons, ih, get?_react]
    simp only [latest_cons, List.forall_mem_cons]
    constructor
    · rintro (⟨spec, hlatest, hdomain⟩ | ⟨hrest, ⟨spec, hoffers, hdomain⟩ | ⟨huntouched, hheld⟩⟩)
      · exact .inl ⟨spec, .inr hlatest, hdomain⟩
      · exact .inl ⟨spec, .inl ⟨hoffers, hrest⟩, hdomain⟩
      · exact .inr ⟨⟨huntouched, hrest⟩, hheld⟩
    · rintro (⟨spec, ⟨hoffers, hrest⟩ | hlatest, hdomain⟩ | ⟨⟨huntouched, hrest⟩, hheld⟩)
      · exact .inr ⟨hrest, .inl ⟨spec, hoffers, hdomain⟩⟩
      · exact .inl ⟨spec, hlatest, hdomain⟩
      · exact .inr ⟨hrest, .inr ⟨huntouched, hheld⟩⟩

/-- The cache is in step with the cluster once a listing was seen. -/
theorem synced_replay (cache : DomainCache) (events : List DomainEvent) :
    (cache.replay events).synced = true ↔
      cache.synced = true ∨ ∃ resources, .listed resources ∈ events := by
  induction events generalizing cache with
  | nil => simp [replay]
  | cons event rest ih =>
    rw [replay_cons, ih, synced_react, or_assoc]
    refine or_congr_right ?_
    simp only [List.mem_cons, exists_or, eq_comm]

end DomainCache

/-! ## Simulations -/

/-- What a delivery of the watch on domains tells the cache; none if a resource has no name. -/
def Delivery.domainEvent? : Delivery → Option DomainEvent
  | appliedDomain resource =>
    (Simulation.namedDomain? resource).map fun r => .applied r.1 r.2
  | deletedDomain name => some (.deleted name)
  | listedDomains resources => (resources.mapM Simulation.namedDomain?).map .listed
  | _ => none

namespace Simulation

section Receiving

variable (sim : Simulation)

/-- The cache takes an event in, and the rules loop is poked as the cache asks for it. -/
structure TakesIn (next : Simulation) (event : DomainEvent) : Prop where
  domains : next.cluster.domains = (sim.cluster.domains.react event).state
  rules : next.rulesWorker =
    if (sim.cluster.domains.react event).pokes then sim.rulesWorker.deliver .trigger
    else sim.rulesWorker
  inclusion : next.inclusionWorker = sim.inclusionWorker

theorem takesIn_onDomains (watched : WatchEvent) (event : DomainEvent) :
    sim.TakesIn (sim.onDomains watched (sim.cluster.domains.react event)) event := by
  unfold onDomains pokeIf
  cases hpokes : (sim.cluster.domains.react event).pokes with
  | false => exact ⟨rfl, by simp [hpokes], rfl⟩
  | true => exact ⟨rfl, by simp [hpokes, poke], rfl⟩

theorem receive?_of_domainEvent {delivery : Delivery} {event : DomainEvent}
    (h : delivery.domainEvent? = some event) :
    ∃ next, sim.receive? delivery = some next ∧ sim.TakesIn next event := by
  cases delivery with
  | appliedDomain resource =>
    obtain ⟨⟨name, spec⟩, hnamed, rfl⟩ := Option.map_eq_some_iff.1 h
    refine ⟨_, ?_, takesIn_onDomains sim .applied (.applied name spec)⟩
    simp only [receive?, hnamed, Option.map_some]
    rfl
  | deletedDomain name =>
    cases h
    exact ⟨_, rfl, takesIn_onDomains sim .deleted (.deleted name)⟩
  | listedDomains resources =>
    obtain ⟨named, hnamed, rfl⟩ := Option.map_eq_some_iff.1 h
    refine ⟨_, ?_, takesIn_onDomains sim .reset (.listed named)⟩
    simp only [receive?, hnamed, Option.map_some]
    rfl
  | _ => cases h

/-- Takes deliveries in, one after the other. -/
def receiveAll? (deliveries : List Delivery) : Option Simulation :=
  deliveries.foldlM receive? sim

theorem receiveAll?_of_domainEvents {deliveries : List Delivery} {events : List DomainEvent}
    (h : deliveries.mapM Delivery.domainEvent? = some events) :
    ∃ reached, sim.receiveAll? deliveries = some reached ∧
      reached.cluster.domains = sim.cluster.domains.replay events := by
  induction deliveries generalizing sim events with
  | nil =>
    cases h
    exact ⟨sim, rfl, rfl⟩
  | cons delivery rest ih =>
    simp only [List.mapM_cons, Option.bind_eq_bind, Option.bind_eq_some_iff, Option.pure_def,
      Option.some.injEq] at h
    obtain ⟨event, hevent, later, hlater, rfl⟩ := h
    obtain ⟨next, hnext, htakes⟩ := receive?_of_domainEvent sim hevent
    obtain ⟨reached, hreached, hdomains⟩ := ih next hlater
    refine ⟨reached, ?_, ?_⟩
    · rw [receiveAll?, List.foldlM_cons, hnext]
      exact hreached
    · rw [hdomains, htakes.domains, DomainCache.replay_cons]

/-- What holds after a history of the watch on domains, whatever comes next. -/
structure Replays (events : List DomainEvent) (reached : Simulation) : Prop where
  found : ∀ name domain, reached.cluster.domains.get name = .ok domain ↔
    ∃ spec, Latest events name spec ∧ domain = .ofSigned name spec
  missing : ∀ name error, reached.cluster.domains.get name = .error error ↔
    (¬ ∃ spec, Latest events name spec) ∧ error = .notFound name
  synced : reached.cluster.domains.synced = true ↔ ∃ resources, .listed resources ∈ events
  next : ∀ delivery event, delivery.domainEvent? = some event →
    ∃ next, reached.receive? delivery = some next ∧
      ((∃ name, next.cluster.domains.get name ≠ reached.cluster.domains.get name) →
        next.rulesWorker = reached.rulesWorker.deliver .trigger ∧
          reached.rulesWorker.Poked next.rulesWorker) ∧
      ((∀ name, next.cluster.domains.get name = reached.cluster.domains.get name) →
        next.rulesWorker = reached.rulesWorker) ∧
      next.inclusionWorker = reached.inclusionWorker

/-- The cache of a fresh simulation replays the deliveries of the watch on domains, and an event pokes
the rules loop once if it changes an answer, and not otherwise. -/
theorem receiveAll?_replays {sim : Simulation} (hfresh : sim.cluster.domains = {})
    {deliveries : List Delivery} {events : List DomainEvent}
    (h : deliveries.mapM Delivery.domainEvent? = some events) :
    ∃ reached, sim.receiveAll? deliveries = some reached ∧ Replays events reached := by
  obtain ⟨reached, hreached, hdomains⟩ := receiveAll?_of_domainEvents sim h
  rw [hfresh] at hdomains
  have hfound (name : String) (domain : Domain) :
      reached.cluster.domains.get name = .ok domain ↔
        ∃ spec, Latest events name spec ∧ domain = .ofSigned name spec := by
    rw [DomainCache.get_eq_ok, hdomains, DomainCache.get?_replay]
    simp [SortedMap.get?_empty]
  have hmissing (name : String) : reached.cluster.domains.domains.get? name = none ↔
      ¬ ∃ spec, Latest events name spec := by
    rw [Option.eq_none_iff_forall_ne_some]
    constructor
    · rintro hnone ⟨spec, hlatest⟩
      exact hnone _ (DomainCache.get_eq_ok.1 ((hfound name _).2 ⟨spec, hlatest, rfl⟩))
    · intro hno domain hheld
      obtain ⟨spec, hlatest, _⟩ := (hfound name domain).1 (DomainCache.get_eq_ok.2 hheld)
      exact hno ⟨spec, hlatest⟩
  refine ⟨reached, hreached, hfound, fun name error => ?_, ?_, fun delivery event hevent => ?_⟩
  · rw [DomainCache.get_eq_error, hmissing]
  · rw [hdomains, DomainCache.synced_replay]
    simp
  · obtain ⟨next, hnext, htakes⟩ := receive?_of_domainEvent reached hevent
    have hpokes := reached.cluster.domains.pokes_iff event
    rw [← htakes.domains] at hpokes
    refine ⟨next, hnext, fun hchanged => ?_, fun hsame => ?_, htakes.inclusion⟩
    · rw [htakes.rules, if_pos (hpokes.2 hchanged)]
      exact ⟨rfl, Worker.poked_deliver reached.rulesWorker⟩
    · rw [htakes.rules, if_neg]
      intro htrue
      obtain ⟨name, hname⟩ := hpokes.1 htrue
      exact hname (hsame name)

end Receiving

/-! ### Two domains

`shop` is listed twice and is deleted later; `billing` is applied in between. -/

namespace TwoDomains

def empty (name : String) : SignedDomain := { domain := { name } }

def staffed (name : String) : SignedDomain :=
  { domain := { name, roles := [{ name := name ++ ":role.clerk", members := ["user.alice"] }] } }

def deliveries : List Delivery :=
  [.listedDomains [.inCluster "shop" (staffed "shop"), .inCluster "shop" (empty "shop")],
    .appliedDomain (.inCluster "billing" (staffed "billing")), .deletedDomain "shop"]

def events : List DomainEvent :=
  [.listed [("shop", staffed "shop"), ("shop", empty "shop")], .applied "billing" (staffed "billing"),
    .deleted "shop"]

end TwoDomains

theorem receiveAll?_replays_two_domains :
    ∃ reached, receiveAll? {} TwoDomains.deliveries = some reached ∧
      Replays TwoDomains.events reached :=
  receiveAll?_replays rfl rfl

end Simulation

end MeshPolicy
