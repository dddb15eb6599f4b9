import MeshPolicy.Inclusion
import MeshPolicy.Proofs.Store.Contract
import MeshPolicy.Watch.Services
import Mathlib.Data.Set.Basic

/-! # The inclusion list converges

Over a store that keeps its contract, one pass makes the config include exactly the enabled services,
whatever the config was before, and a second pass finds nothing to do.

* `edit?_eq_none`, `mem_of_edit?`: lists are compared, and made equal, as sets.
* `Enforcement.Includes`: a config in inclusion mode for a set of services.
* `revised?_cases`: the two ways to revise a config. `decide_some`: what is decided then.
* `Decided`: all that can be decided. `decided`: nothing else is.
* `Converged`: what is held after a pass. `Tells`: what an outcome says of the state before it.
* `run_spec`: one pass. `run_converges`: a pass and the pass after it.
-/

namespace MeshPolicy
set_option autoImplicit false

/-- The config is in inclusion mode, and includes the services of the set. Nothing is asked of the
order of its list, nor that a service is listed once. -/
structure Enforcement.Includes (spec : Enforcement) (services : Set String) : Prop where
  mode : spec.mode = .onWithInclusion
  members : ∃ target, spec.inclusion = some target ∧
    ∀ service, service ∈ target.services ↔ service ∈ services

/-- The identifiers of the services that have opted in. -/
def ServiceCache.Enabled (cache : ServiceCache) (dnsSuffix : String) : Set String :=
  {identifier | ∃ ns name, cache.isEnabled ns name = true ∧
    identifier = Naming.serviceIdentifier name ns dnsSuffix}

namespace Inclusion

/-! ## The edited list -/

section Edit

variable {current desired services : List String}

/-- Nothing is to be edited if both lists have the same members. -/
theorem edit?_eq_none :
    edit? current desired = none ↔ ∀ service, service ∈ current ↔ service ∈ desired := by
  have hkept : (current.filter fun service => desired.contains service).length = current.length ↔
      ∀ service ∈ current, service ∈ desired := by
    simp [List.length_filter_eq_length_iff]
  have hadded : desired.filter (fun service => !current.contains service) = [] ↔
      ∀ service ∈ desired, service ∈ current := by
    simp [List.filter_eq_nil_iff]
  simp only [edit?, hkept, hadded, ite_eq_left_iff, reduceCtorEq, imp_false, Classical.not_not]
  exact ⟨fun h service => ⟨h.1 service, h.2 service⟩,
    fun h => ⟨fun service => (h service).1, fun service => (h service).2⟩⟩

/-- An edited list has the desired members. -/
theorem mem_of_edit? (h : edit? current desired = some services) (service : String) :
    service ∈ services ↔ service ∈ desired := by
  simp only [edit?] at h
  split at h
  · cases h
  · cases h
    by_cases hcurrent : service ∈ current <;> simp [hcurrent]

end Edit

/-! ## The revised config -/

section Revise

variable {spec : Enforcement} {enabled : List String}

theorem includes_including (enabled : List String) :
    (Enforcement.including enabled).Includes {service | service ∈ enabled} :=
  ⟨rfl, { services := enabled }, rfl, fun _ => Iff.rfl⟩

/-- A config in inclusion mode has its list edited; any other is made anew. -/
theorem revised?_cases (spec : Enforcement) (enabled : List String) :
    (∃ target, spec.mode = .onWithInclusion ∧ spec.inclusion = some target ∧
      revised? spec enabled = (edit? target.services enabled).map fun services =>
        { spec with inclusion := some { target with services } }) ∨
    (spec.includedServices = none ∧ revised? spec enabled = some (.including enabled)) := by
  unfold revised?
  split
  next target hmode htarget => exact .inl ⟨target, hmode, htarget, rfl⟩
  next hother =>
    refine .inr ⟨?_, rfl⟩
    rw [Option.eq_none_iff_forall_ne_some]
    intro services hservices
    obtain ⟨target, hmode, htarget, _⟩ := Enforcement.includedServices_eq_some.1 hservices
    exact hother target hmode htarget

theorem revised?_eq_none :
    revised? spec enabled = none ↔ spec.Includes {service | service ∈ enabled} := by
  rcases revised?_cases spec enabled with ⟨target, hmode, htarget, hrevised⟩ | ⟨hnone, hrevised⟩
  · rw [hrevised, Option.map_eq_none_iff, edit?_eq_none]
    constructor
    · intro hmembers
      exact ⟨hmode, target, htarget, hmembers⟩
    · rintro ⟨_, target', htarget', hmembers⟩
      obtain rfl : target = target' := Option.some.inj (htarget.symm.trans htarget')
      exact hmembers
  · rw [hrevised]
    constructor
    · intro hsome
      cases hsome
    · rintro ⟨hmode, target, htarget, _⟩
      have hsome := Enforcement.includedServices_eq_some.2 ⟨target, hmode, htarget, rfl⟩
      rw [hnone] at hsome
      cases hsome

theorem includes_of_revised? {revised : Enforcement} (h : revised? spec enabled = some revised) :
    revised.Includes {service | service ∈ enabled} := by
  rcases revised?_cases spec enabled with ⟨target, hmode, htarget, hrevised⟩ | ⟨_, hrevised⟩
  · rw [hrevised, Option.map_eq_some_iff] at h
    obtain ⟨services, hedit, rfl⟩ := h
    exact ⟨hmode, { target with services }, rfl, mem_of_edit? hedit⟩
  · rw [hrevised] at h
    cases h
    exact includes_including enabled

theorem not_includes_of_revised? {revised : Enforcement}
    (h : revised? spec enabled = some revised) :
    ¬ spec.Includes {service | service ∈ enabled} := fun hincludes => by
  rw [revised?_eq_none.2 hincludes] at h
  cases h

/-- Revised or not, the config includes exactly the enabled services in the end. -/
theorem includes_revised (spec : Enforcement) (enabled : List String) :
    ((revised? spec enabled).getD spec).Includes {service | service ∈ enabled} := by
  cases hrevised : revised? spec enabled with
  | none => exact revised?_eq_none.1 hrevised
  | some revised => exact includes_of_revised? hrevised

theorem isEmpty_includedServices (h : spec.Includes {service | service ∈ enabled}) :
    (spec.includedServices.getD []).isEmpty = enabled.isEmpty := by
  obtain ⟨hmode, target, htarget, hmembers⟩ := h
  have hservices : spec.includedServices.getD [] = target.services := by
    simp [Enforcement.includedServices, hmode, htarget]
  rw [hservices, Bool.eq_iff_iff, List.isEmpty_iff, List.isEmpty_iff, List.eq_nil_iff_forall_not_mem,
    List.eq_nil_iff_forall_not_mem]
  exact forall_congr' fun service => not_congr (hmembers service)

end Revise

/-! ## The decision -/

/-- All that can be decided about a config. -/
inductive Decided (enabled : List String) : Option (Object Enforcement) → Decision → Prop where
  | leaveAbsent : enabled = [] → Decided enabled none .leaveAbsent
  | create : enabled ≠ [] →
    Decided enabled none (.create (.inCluster Enforcement.defaultName (.including enabled)))
  | delete (config : Object Enforcement) : enabled = [] → Decided enabled (some config) .delete
  | leave (config : Object Enforcement) : enabled ≠ [] → revised? config.spec enabled = none →
    Decided enabled (some config) .leave
  | replace (config : Object Enforcement) (spec : Enforcement) : enabled ≠ [] →
    revised? config.spec enabled = some spec →
    Decided enabled (some config) (.replace { config with spec })

/-- A config is deleted when nothing is enabled, and only otherwise does it matter whether it has to
be revised. -/
theorem decide_some (config : Object Enforcement) (enabled : List String) :
    decide (some config) enabled =
      if enabled.isEmpty then .delete
      else
        match revised? config.spec enabled with
        | none => .leave
        | some spec => .replace { config with spec } := by
  have hempty := isEmpty_includedServices (includes_revised config.spec enabled)
  cases hrevised : revised? config.spec enabled with
  | none =>
    rw [hrevised] at hempty
    simp only [decide, hrevised, hempty]
  | some spec =>
    rw [hrevised] at hempty
    simp only [decide, hrevised, hempty]

theorem decided (enabled : List String) (current : Option (Object Enforcement)) :
    Decided enabled current (decide current enabled) := by
  cases current with
  | none =>
    by_cases henabled : enabled = []
    · subst henabled
      exact .leaveAbsent rfl
    · have hdecide : decide none enabled =
          .create (.inCluster Enforcement.defaultName (.including enabled)) := by
        simp [decide, henabled]
      rw [hdecide]
      exact .create henabled
  | some config =>
    rw [decide_some]
    by_cases henabled : enabled = []
    · subst henabled
      exact .delete config rfl
    · rw [if_neg (by simpa using henabled)]
      cases hrevised : revised? config.spec enabled with
      | none => exact .leave config henabled hrevised
      | some revised => exact .replace config revised henabled hrevised

/-! ## Before and after -/

/-- The config is held if a service is enabled, and then it includes exactly the enabled ones. -/
structure Converged (services : Set String) (held : Option (Object Enforcement)) : Prop where
  held_iff : (∃ config, held = some config) ↔ services.Nonempty
  includes : ∀ config, held = some config → config.spec.Includes services

/-- What an outcome says of what was held before. -/
def Tells (services : Set String) (held : Option (Object Enforcement)) : InclusionOutcome → Prop
  | .absent => held = none ∧ ¬ services.Nonempty
  | .created => held = none ∧ services.Nonempty
  | .deleted => (∃ config, held = some config) ∧ ¬ services.Nonempty
  | .unchanged => (∃ config, held = some config ∧ config.spec.Includes services) ∧
    services.Nonempty
  | .updated => (∃ config, held = some config ∧ ¬ config.spec.Includes services) ∧
    services.Nonempty

section Decided

variable {enabled : List String} {held left : Option (Object Enforcement)} {decision : Decision}

theorem nonempty_iff : {service | service ∈ enabled}.Nonempty ↔ enabled ≠ [] :=
  ⟨fun h => List.ne_nil_of_mem h.some_mem, fun h => List.exists_mem_of_ne_nil enabled h⟩

/-- Each outcome is that of one kind of state. -/
theorem Decided.tells_iff (h : Decided enabled held decision) (outcome : InclusionOutcome) :
    decision.outcome = outcome ↔ Tells {service | service ∈ enabled} held outcome := by
  cases h with
  | leaveAbsent henabled => cases outcome <;> simp [Decision.outcome, Tells, henabled]
  | create henabled => cases outcome <;> simp [Decision.outcome, Tells, nonempty_iff, henabled]
  | delete config henabled => cases outcome <;> simp [Decision.outcome, Tells, henabled]
  | leave config henabled hrevised =>
    have hincludes := revised?_eq_none.1 hrevised
    cases outcome <;> simp [Decision.outcome, Tells, nonempty_iff, henabled, hincludes]
  | replace config spec henabled hrevised =>
    have hdiffers := not_includes_of_revised? hrevised
    cases outcome <;> simp [Decision.outcome, Tells, nonempty_iff, henabled, hdiffers]

/-- Where nothing is sent, what is held is as it should be. -/
theorem Decided.converged (h : Decided enabled held decision) (hrequest : decision.request? = none) :
    Converged {service | service ∈ enabled} held := by
  cases h with
  | leaveAbsent henabled =>
    refine ⟨by simp [henabled], fun config hconfig => ?_⟩
    cases hconfig
  | leave config henabled hrevised =>
    refine ⟨by simp [nonempty_iff, henabled], fun config' hconfig => ?_⟩
    cases hconfig
    exact revised?_eq_none.1 hrevised
  | create => cases hrequest
  | delete => cases hrequest
  | replace => cases hrequest

/-- A store that keeps its contract accepts the write that is decided on. -/
theorem Decided.accepted (h : Decided enabled held decision)
    (hown : ∀ config, held = some config → config.id? = some configId)
    {request : Request Enforcement} (hrequest : decision.request? = some request) :
    request.id = configId ∧ request.Addressed ∧ request.outcomeOn held = .ok () := by
  cases h with
  | leaveAbsent => cases hrequest
  | leave => cases hrequest
  | create henabled =>
    cases hrequest
    exact ⟨rfl, rfl, rfl⟩
  | delete config henabled =>
    cases hrequest
    exact ⟨rfl, rfl, rfl⟩
  | replace config spec henabled hrevised =>
    cases hrequest
    refine ⟨rfl, hown config rfl, ?_⟩
    simp [Request.outcomeOn]

/-- What an accepted write leaves behind is as it should be. -/
theorem Decided.converges (h : Decided enabled held decision)
    {request : Request Enforcement} (hrequest : decision.request? = some request)
    (hleaves : request.Leaves held left) : Converged {service | service ∈ enabled} left := by
  cases h with
  | leaveAbsent => cases hrequest
  | leave => cases hrequest
  | create henabled =>
    cases hrequest
    obtain ⟨version, rfl⟩ := hleaves
    refine ⟨by simp [nonempty_iff, henabled], fun config hconfig => ?_⟩
    cases hconfig
    exact includes_including enabled
  | delete config henabled =>
    cases hrequest
    have hleft : left = none := hleaves
    subst hleft
    refine ⟨by simp [henabled], fun config hconfig => ?_⟩
    cases hconfig
  | replace config spec henabled hrevised =>
    cases hrequest
    simp only [Request.Leaves, Request.outcomeOn, if_true] at hleaves
    obtain ⟨version, rfl⟩ := hleaves
    refine ⟨by simp [nonempty_iff, henabled], fun config' hconfig => ?_⟩
    cases hconfig
    exact includes_of_revised? hrevised

/-- There is nothing to send where all is as it should be. -/
theorem Decided.outcome_of_converged (h : Decided enabled held decision)
    (hconverged : Converged {service | service ∈ enabled} held) :
    decision.request? = none ∧ (decision.outcome = .absent ∨ decision.outcome = .unchanged) := by
  cases h with
  | leaveAbsent => exact ⟨rfl, .inl rfl⟩
  | leave => exact ⟨rfl, .inr rfl⟩
  | create henabled =>
    obtain ⟨config, hconfig⟩ := hconverged.held_iff.2 (nonempty_iff.2 henabled)
    cases hconfig
  | delete config henabled =>
    exact absurd henabled (nonempty_iff.1 (hconverged.held_iff.1 ⟨config, rfl⟩))
  | replace config spec henabled hrevised =>
    exact absurd (hconverged.includes config rfl) (not_includes_of_revised? hrevised)

end Decided

/-! ## Runs -/

section Run

variable {ω : Type} {store : Store Enforcement ω}

/-- All that a pass does to the world is to read the config and to send the write that it reports. -/
def Report.Accounts (report : Report) (store : Store Enforcement ω) (before after : ω) : Prop :=
  after = store.performAll (report.write.toList.map Prod.fst) (store.get configId before).2

/-- What a pass decides on is sent, and its outcome is the pass's result. -/
structure Ran (contract : store.Contract) (enabled : List String) (before after : ω)
    (report : Report) : Prop where
  sound : contract.Sound after
  accounts : report.Accounts store before after
  sends : report.write.map Prod.fst = (decide (contract.contents before configId) enabled).request?
  result : report.result = .ok (decide (contract.contents before configId) enabled).outcome
  converged : Converged {service | service ∈ enabled} (contract.contents after configId)

theorem run_spec (contract : store.Contract) (enabled : List String) {world : ω}
    (hs : contract.Sound world) :
    ∃ report after, run store enabled world = (report, after) ∧
      Ran contract enabled world after report := by
  obtain ⟨read, hget, hsread, hread⟩ := contract.get configId hs
  have hdecided := decided enabled (contract.contents world configId)
  have hrun : run store enabled world =
      carryOut store ((resetEvent? (contract.contents world configId)).toList ++
        (decide (contract.contents world configId) enabled).event?.toList)
        (decide (contract.contents world configId) enabled) read := by
    simp only [run, hget]
  cases hrequest : (decide (contract.contents world configId) enabled).request? with
  | none =>
    simp only [carryOut, hrequest] at hrun
    refine ⟨_, read, hrun, hsread, ?_, ?_, rfl, ?_⟩
    · simp only [Report.Accounts, hget, Option.toList_none, List.map_nil, Store.performAll]
    · rw [hrequest]
      rfl
    · rw [hread]
      exact hdecided.converged hrequest
  | some request =>
    -- Reading has changed nothing, so the store judges the write by what the pass has read.
    obtain ⟨hid, haddressed, haccepted⟩ :=
      hdecided.accepted (fun config hconfig => contract.own_id hs hconfig) hrequest
    obtain ⟨after, hperform, hsafter, hchanges⟩ := contract.perform hsread haddressed
    rw [hread, hid, haccepted] at hperform
    simp only [carryOut, hrequest, hperform] at hrun
    refine ⟨_, after, hrun, hsafter, ?_, ?_, rfl, ?_⟩
    · simp only [Report.Accounts, hget, Option.toList_some, List.map_cons, List.map_nil,
        Store.performAll, hperform]
    · rw [hrequest]
      rfl
    · have hleaves := hchanges.leaves
      rw [hread, hid] at hleaves
      exact hdecided.converges hrequest hleaves

theorem setOf_mem_enabledServices (cache : ServiceCache) (dnsSuffix : String) :
    {service | service ∈ cache.enabledServices dnsSuffix} = cache.Enabled dnsSuffix :=
  Set.ext fun _ => ServiceCache.mem_enabledServices

/-- One pass over a store that keeps its contract makes the config include exactly the enabled
services, from whatever is held; its outcome tells what was held. The pass after it sends nothing. -/
theorem run_converges (contract : store.Contract) (cache : ServiceCache) (dnsSuffix : String)
    {world : ω} (hs : contract.Sound world) :
    ∃ first after, run store (cache.enabledServices dnsSuffix) world = (first, after) ∧
      contract.Sound after ∧ first.Accounts store world after ∧
      Converged (cache.Enabled dnsSuffix) (contract.contents after configId) ∧
      (∃ outcome, first.result = .ok outcome ∧ ∀ told, outcome = told ↔
        Tells (cache.Enabled dnsSuffix) (contract.contents world configId) told) ∧
      ∃ second later, run store (cache.enabledServices dnsSuffix) after = (second, later) ∧
        second.write = none ∧ second.Accounts store after later ∧
        (second.result = .ok .absent ∨ second.result = .ok .unchanged) := by
  obtain ⟨first, after, hfirst, hran⟩ := run_spec contract (cache.enabledServices dnsSuffix) hs
  obtain ⟨second, later, hsecond, hagain⟩ :=
    run_spec contract (cache.enabledServices dnsSuffix) hran.sound
  have htells := (decided (cache.enabledServices dnsSuffix)
    (contract.contents world configId)).tells_iff
  obtain ⟨hrequest, houtcome⟩ := (decided (cache.enabledServices dnsSuffix)
    (contract.contents after configId)).outcome_of_converged hran.converged
  have hconverged := hran.converged
  rw [setOf_mem_enabledServices] at htells hconverged
  have hwrite : second.write = none := by
    have hsends := hagain.sends
    rw [hrequest] at hsends
    exact Option.map_eq_none_iff.1 hsends
  refine ⟨first, after, hfirst, hran.sound, hran.accounts, hconverged, ⟨_, hran.result, htells⟩,
    second, later, hsecond, hwrite, hagain.accounts, ?_⟩
  rw [hagain.result]
  exact houtcome.imp (congrArg Except.ok) (congrArg Except.ok)

end Run

/-! ### Two services

`web` and `api` have opted in. The config lists `api` twice and a service that nobody knows, and it
excludes a namespace. -/

namespace TwoServices

def services : ServiceCache := ServiceCache.enableAll {} [("shop", "web"), ("billing", "api")]

def config : Object Enforcement := .inCluster Enforcement.defaultName
  { mode := .onWithInclusion
    inclusion := some { services := ["api.billing.mesh", "old.shop.mesh", "api.billing.mesh"] }
    exclusion := some { namespaces := ["kube-system"] } }

def world : Disturbed Enforcement := { memory := (Memory.put {} configId config).2 }

theorem sound_world : Disturbed.contract.Sound world := ⟨⟨rfl, rfl⟩, Memory.sound_empty.put rfl⟩

end TwoServices

theorem run_converges_two_services :
    ∃ first after, run Disturbed.store (TwoServices.services.enabledServices "mesh")
        TwoServices.world = (first, after) ∧
      Disturbed.contract.Sound after ∧ first.Accounts Disturbed.store TwoServices.world after ∧
      Converged (TwoServices.services.Enabled "mesh") (after.memory.get? configId) ∧
      (∃ outcome, first.result = .ok outcome ∧ ∀ told, outcome = told ↔
        Tells (TwoServices.services.Enabled "mesh") (TwoServices.world.memory.get? configId) told) ∧
      ∃ second later, run Disturbed.store (TwoServices.services.enabledServices "mesh") after =
          (second, later) ∧
        second.write = none ∧ second.Accounts Disturbed.store after later ∧
        (second.result = .ok .absent ∨ second.result = .ok .unchanged) :=
  run_converges Disturbed.contract TwoServices.services "mesh" TwoServices.sound_world

end Inclusion

end MeshPolicy
