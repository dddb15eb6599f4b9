import MeshPolicy.Inclusion
import MeshPolicy.Proofs.Pass.Convergence
import MeshPolicy.Proofs.Pass.Listing
import MeshPolicy.Proofs.Store.Contested

/-! # No update is lost

Both kinds of passes write to stores that others write to as well. A replacement carries the version
of an object that the pass has listed or got, so it overwrites nothing else; a create overwrites
nothing at all.

* `based_requestsFor`, `Pass.run_keeps`: the writes of a pass are based on what it has listed.
* `based_decide`, `Inclusion.run_keeps`: the write to the inclusion list is based on what was got.
* `passes_lose_nothing`: whatever other writers do before each call, nothing of it is overwritten.
-/

namespace MeshPolicy
set_option autoImplicit false

open Contested

namespace Pass

/-! ## Passes over access rules and bindings -/

section Kind

variable {σ ω : Type} [DecidableEq σ] {live : LiveIndex σ}

/-- The writes of one kind are based on its listing. -/
theorem based_requestsFor {objects : List (Object σ)}
    (hlive : LiveIndex.ofObjects? objects = some live) {wants : List (ObjectId × Object σ)}
    (hids : ∀ want ∈ wants, want.2.id? = some want.1) {history : List (Event σ ω)}
    (htold : Told history objects) (failed : SortedSet String) :
    ∀ request ∈ requestsFor failed wants live, Based history request := by
  intro request hmem
  refine htold.based (addressed_requestsFor hids request hmem) fun object haction => ?_
  rcases (mem_requestsFor hlive).1 hmem with ⟨want, _, hconverge⟩ | ⟨id, _, _, hdiscard⟩
  · rcases convergeRequest?_eq_some.1 hconverge with ⟨_, rfl⟩ | ⟨current, hfind, _, rfl⟩
    · cases haction
    · cases haction
      rw [LiveIndex.find?_ofObjects hlive] at hfind
      have hcurrent : current ∈ objects := List.mem_reverse.1 (List.mem_of_find?_eq_some hfind)
      have hid : current.id? = some want.1 := by simpa using List.find?_some hfind
      exact ⟨current, hcurrent, hid, rfl⟩
  · obtain ⟨_, rfl⟩ := discardRequest?_eq_some.1 hdiscard
    cases haction

end Kind

theorem run_keeps {ω₁ ω₂ : Type} (rules : Contest ServiceRole ω₁)
    (bindings : Contest RoleBinding ω₂) (answers : Answers) (namespaces : SortedSet String)
    (dnsSuffix : String) {after : Contested ServiceRole ω₁ × Contested RoleBinding ω₂}
    (h : ((ofStores answers namespaces dnsSuffix rules.contested bindings.contested).run
      (rules.initial, bindings.initial)).2 = after) :
    Keeps rules.versioned after.1 ∧ Keeps bindings.versioned after.2 := by
  obtain ⟨rulesListed, rulesAfter, hrulesList, hrulesKeeps, hrulesTold, hrulesNamed⟩ :=
    rules.list_initial
  obtain ⟨bindingsListed, bindingsAfter, hbindingsList, hbindingsKeeps, hbindingsTold,
    hbindingsNamed⟩ := bindings.list_initial
  have hlist : (ofStores answers namespaces dnsSuffix rules.contested
      bindings.contested).stores.list (rules.initial, bindings.initial) =
        (.ok ⟨rulesListed, bindingsListed⟩, (rulesAfter, bindingsAfter)) := by
    simp only [stores, ofStores, Stores.list, Store.inFirst, Store.inSecond, hrulesList,
      hbindingsList]
  obtain ⟨rulesLive, bindingsLive, hrulesLive, hbindingsLive, hrun⟩ :=
    run_of_listed hlist ⟨hrulesNamed, hbindingsNamed⟩
  rw [hrun] at h
  simp only [performAll_ofStores, stepsFor, rulesRequests_plan, bindingRequests_plan] at h
  subst h
  exact ⟨hrulesKeeps.performAll rules.turn (based_requestsFor hrulesLive
      (fun want hwant => (answered_rulesWants want hwant).1) hrulesTold _),
    hbindingsKeeps.performAll bindings.turn (based_requestsFor hbindingsLive
      (fun want hwant => (answered_bindingWants want hwant).1) hbindingsTold _)⟩

end Pass

namespace Inclusion

/-! ## Passes over the inclusion list -/

variable {ω : Type}

/-- The write that a pass decides on is based on the config that it has got. -/
theorem based_decide {current : Option (Object Enforcement)} {enabled : List String}
    {history : List (Event Enforcement ω)} (htold : Told history current.toList)
    (hid : ∀ config, current = some config → config.id? = some configId)
    {request : Request Enforcement} (h : (decide current enabled).request? = some request) :
    Based history request := by
  unfold decide at h
  cases current with
  | none =>
    simp only at h
    split at h
    · cases h
    · cases h
      exact htold.based rfl fun object haction => by cases haction
  | some config =>
    simp only at h
    split at h
    · cases h
      exact htold.based rfl fun object haction => by cases haction
    · split at h
      · cases h
      · cases h
        refine htold.based (hid config rfl) fun object haction => ?_
        cases haction
        exact ⟨config, List.mem_singleton_self _, hid config rfl, rfl⟩

theorem run_keeps (config : Contest Enforcement ω) (enabled : List String) :
    Keeps config.versioned (run config.contested enabled config.initial).2 := by
  obtain ⟨current, got, hget, hkeeps, htold, hid⟩ := config.get_initial configId
  unfold run
  simp only [hget, carryOut]
  cases hrequest : (decide current enabled).request? with
  | none => exact hkeeps
  | some request => exact hkeeps.perform config.turn (based_decide htold hid hrequest)

end Inclusion

/-! ## Both loops -/

/-- Other writers may change a store before each call as they like. A replacement that a pass of
either kind sends is accepted if and only if it finds the object that the pass has read, a create if
and only if it finds none, and what is refused leaves the store as the other writers left it. -/
theorem passes_lose_nothing {ω₁ ω₂ ω₃ : Type} (rules : Contest ServiceRole ω₁)
    (bindings : Contest RoleBinding ω₂) (config : Contest Enforcement ω₃) (answers : Pass.Answers)
    (namespaces : SortedSet String) (dnsSuffix : String) (enabled : List String) :
    rules.Lossless ((Pass.ofStores answers namespaces dnsSuffix rules.contested
        bindings.contested).run (rules.initial, bindings.initial)).2.1 ∧
      bindings.Lossless ((Pass.ofStores answers namespaces dnsSuffix rules.contested
        bindings.contested).run (rules.initial, bindings.initial)).2.2 ∧
      config.Lossless (Inclusion.run config.contested enabled config.initial).2 := by
  obtain ⟨hrules, hbindings⟩ := Pass.run_keeps rules bindings answers namespaces dnsSuffix rfl
  exact ⟨hrules.lossless, hbindings.lossless, (Inclusion.run_keeps config enabled).lossless⟩

/-! ### The shop, with other writers

After the first call to each store, someone writes the reader's rules anew, creates the reader's
binding and deletes the config. So the pass meets changed rules and a binding that it takes for
missing, and the other one misses its config. -/

namespace Pass.Shop

def reader : ObjectId := ⟨"shop", "reader"⟩

/-- Other writers make one change, between the first call and the second. -/
def once {σ : Type} (id : ObjectId) (change : Change σ) : Nat → List (ObjectId × Change σ)
  | 1 => [(id, change)]
  | _ => []

def contestedRules : Contest ServiceRole (Memory ServiceRole) :=
  .ofMemory [(reader, .put (.inNamespace "shop" "reader" {}))] (once reader .touch)

def contestedBindings : Contest RoleBinding (Memory RoleBinding) :=
  .ofMemory []
    (once reader (.put (.inNamespace "shop" "reader" { roleRef := .serviceRole "reader" })))

def contestedConfig : Contest Enforcement (Memory Enforcement) :=
  .ofMemory
    [(Inclusion.configId,
      .put (.inCluster Enforcement.defaultName (.including ["basket.shop.svc.mesh"])))]
    (once Inclusion.configId .remove)

def contestedRun :=
  (ofStores (answersOf lookup) namespaces "mesh" contestedRules.contested
    contestedBindings.contested).run (contestedRules.initial, contestedBindings.initial)

def contestedInclusion :=
  Inclusion.run contestedConfig.contested ["till.shop.svc.mesh"] contestedConfig.initial

end Pass.Shop

theorem passes_lose_nothing_shop :
    (Pass.Shop.contestedRules.Lossless Pass.Shop.contestedRun.2.1 ∧
      Pass.Shop.contestedBindings.Lossless Pass.Shop.contestedRun.2.2 ∧
      Pass.Shop.contestedConfig.Lossless Pass.Shop.contestedInclusion.2) ∧
    Pass.Shop.contestedRun.1.writes.map WriteRecord.outcome =
      [.error (.conflict Pass.Shop.reader), .error (.alreadyExists Pass.Shop.reader)] ∧
    Pass.Shop.contestedInclusion.1.writes.map WriteRecord.outcome =
      [.error (.notFound Inclusion.configId)] :=
  ⟨passes_lose_nothing Pass.Shop.contestedRules Pass.Shop.contestedBindings
    Pass.Shop.contestedConfig _ _ _ _, rfl, rfl⟩

end MeshPolicy
