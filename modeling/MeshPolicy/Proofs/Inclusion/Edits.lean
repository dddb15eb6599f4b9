import MeshPolicy.Proofs.Inclusion.Convergence
import MeshPolicy.Proofs.Pass.Recording

/-! # Edits of the inclusion list

A config in inclusion mode is replaced by itself with another list, and the list changes by no more
than it has to. A config in another mode keeps its metadata only.

* `EditedInto`: what a list is made into for the services that are enabled.
* `editedInto_of_edit?`, `edit?_again`: that is what an edited list is, and it is not edited again.
* `log_eq_of_replaced`, `replaced`: when a store receives a replacement, and by what.
* `run_edits_least`: what a pass does to the config that it replaces.
-/

namespace MeshPolicy.Inclusion
set_option autoImplicit false

/-! ## Edited lists -/

/-- What is no longer enabled is gone, with the order and the repetitions of the rest as they were;
at the end stands what was missing, ascending and each once. -/
def EditedInto (current enabled edited : List String) : Prop :=
  ∃ added, edited = (current.filter fun service => service ∈ enabled) ++ added ∧ Ascending added ∧
    ∀ service, service ∈ added ↔ service ∈ enabled ∧ service ∉ current

section Edit

variable {current enabled edited : List String}

theorem editedInto_of_edit? (henabled : Ascending enabled) (h : edit? current enabled = some edited) :
    EditedInto current enabled edited := by
  simp only [edit?] at h
  split at h
  · cases h
  · cases h
    have hadded : Ascending (enabled.filter fun service => !current.contains service) :=
      henabled.sublist List.filter_sublist
    refine ⟨_, ?_, hadded, fun service => ?_⟩
    · simp only [List.contains_eq_mem]
    · simp

/-- An edited list has the members it should have, so that there is nothing more to edit. -/
theorem edit?_again (h : edit? current enabled = some edited) : edit? edited enabled = none :=
  edit?_eq_none.2 (mem_of_edit? h)

end Edit

/-! ## Replaced configs -/

section Replaced

variable {ω : Type} {store : Store Enforcement ω} {world read : ω} {config new : Object Enforcement}

/-- What a pass replaces a config by is the one write that its store receives. -/
theorem log_eq_of_replaced {enabled : List String}
    (hreplaced : .replace new ∈ (run store.logging enabled ([], world)).2.1) :
    (run store.logging enabled ([], world)).2.1 = [.replace new] ∧
      ∃ request outcome, (run store enabled world).1.write = some (request, outcome) ∧
        request.toWrite = .replace new := by
  have hlog : (run store.logging enabled ([], world)).2.1 =
      (run store enabled world).1.write.toList.map fun w => w.1.toWrite := by
    rw [run_logging, List.nil_append]
  rw [hlog] at hreplaced ⊢
  obtain ⟨⟨request, outcome⟩, hwrite, hrequest⟩ := List.mem_map.1 hreplaced
  rw [Option.mem_toList] at hwrite
  refine ⟨?_, request, outcome, hwrite, hrequest⟩
  rw [hwrite, Option.toList_some, List.map_singleton]
  exact congrArg (fun write => [write]) hrequest

/-- A pass replaces the config that it reads by a revised one, and changes nothing else of it. -/
theorem replaced {enabled : List String} {request : Request Enforcement} {outcome : WriteOutcome}
    (hget : store.get configId world = (.ok (some config), read))
    (hwrite : (run store enabled world).1.write = some (request, outcome))
    (hrequest : request.toWrite = .replace new) :
    ∃ spec, revised? config.spec enabled = some spec ∧ new = { config with spec } := by
  simp only [run, hget, carryOut] at hwrite
  have hdecided := decided enabled (some config)
  generalize decide (some config) enabled = decision at hdecided hwrite
  cases hdecided with
  | delete =>
    cases hwrite
    cases hrequest
  | leave => cases hwrite
  | replace _ spec henabled hrevised =>
    cases hwrite
    cases hrequest
    exact ⟨spec, hrevised, rfl⟩

/-- A pass after which the store has received a replacement has sent nothing else. The new config has
all the metadata of the one that was read. In inclusion mode it also keeps the whole specification but
for the included services, whose list is edited and needs no further edit; in any other mode the
specification is made anew. -/
theorem run_edits_least (cache : ServiceCache) (dnsSuffix : String)
    (hget : store.get configId world = (.ok (some config), read))
    (hreplaced : .replace new ∈
      (run store.logging (cache.enabledServices dnsSuffix) ([], world)).2.1) :
    (run store.logging (cache.enabledServices dnsSuffix) ([], world)).2.1 = [.replace new] ∧
    new.metadata = config.metadata ∧
    (∀ current, config.spec.includedServices = some current → ∃ target edited,
      config.spec.inclusion = some target ∧ target.services = current ∧
      new.spec = { config.spec with inclusion := some { target with services := edited } } ∧
      EditedInto current (cache.enabledServices dnsSuffix) edited ∧
      edit? edited (cache.enabledServices dnsSuffix) = none) ∧
    (config.spec.includedServices = none →
      new.spec = .including (cache.enabledServices dnsSuffix)) := by
  obtain ⟨hlog, request, outcome, hwrite, hrequest⟩ := log_eq_of_replaced hreplaced
  obtain ⟨spec, hrevised, rfl⟩ := replaced hget hwrite hrequest
  refine ⟨hlog, rfl, ?_⟩
  rcases revised?_cases config.spec (cache.enabledServices dnsSuffix) with
    ⟨target, hmode, htarget, hcase⟩ | ⟨hnone, hcase⟩
  · have hincluded := Enforcement.includedServices_eq_some.2 ⟨target, hmode, htarget, rfl⟩
    rw [hcase, Option.map_eq_some_iff] at hrevised
    obtain ⟨edited, hedit, rfl⟩ := hrevised
    refine ⟨fun current hcurrent => ?_, fun hnone => ?_⟩
    · obtain rfl : target.services = current := Option.some.inj (hincluded.symm.trans hcurrent)
      exact ⟨target, edited, htarget, rfl, rfl,
        editedInto_of_edit? (cache.ascending_enabledServices dnsSuffix) hedit, edit?_again hedit⟩
    · rw [hincluded] at hnone
      cases hnone
  · rw [hcase] at hrevised
    cases hrevised
    refine ⟨fun current hcurrent => ?_, fun _ => rfl⟩
    rw [hnone] at hcurrent
    cases hcurrent

end Replaced

/-! ### Two services, again

The unknown service goes, both entries of `api` stay, and `web` comes at the end. -/

namespace TwoServices

/-- The stored config. -/
def stored : Object Enforcement := config.withVersion (some "1")

def edited : Object Enforcement where
  metadata := stored.metadata
  spec :=
    { stored.spec with
      inclusion :=
        some { services := ["api.billing.mesh", "api.billing.mesh", "web.shop.mesh"] } }

end TwoServices

theorem run_edits_least_two_services :
    Disturbed.store.get configId TwoServices.world = (.ok (some TwoServices.stored), TwoServices.world) ∧
    (run Disturbed.store.logging (TwoServices.services.enabledServices "mesh")
      ([], TwoServices.world)).2.1 = [.replace TwoServices.edited] ∧
    TwoServices.edited.metadata = TwoServices.stored.metadata ∧
    ∃ target edited, TwoServices.stored.spec.inclusion = some target ∧
      TwoServices.edited.spec =
        { TwoServices.stored.spec with inclusion := some { target with services := edited } } ∧
      EditedInto ["api.billing.mesh", "old.shop.mesh", "api.billing.mesh"]
        (TwoServices.services.enabledServices "mesh") edited := by
  have hget : Disturbed.store.get configId TwoServices.world =
      (.ok (some TwoServices.stored), TwoServices.world) := by rfl
  have hreplaced : .replace TwoServices.edited ∈
      (run Disturbed.store.logging (TwoServices.services.enabledServices "mesh")
        ([], TwoServices.world)).2.1 := List.mem_singleton.2 rfl
  obtain ⟨hlog, hmetadata, hedited, _⟩ := run_edits_least TwoServices.services "mesh" hget hreplaced
  obtain ⟨target, edited, htarget, _, hspec, hinto, _⟩ := hedited _ rfl
  exact ⟨hget, hlog, hmetadata, target, edited, htarget, hspec, hinto⟩

end MeshPolicy.Inclusion
