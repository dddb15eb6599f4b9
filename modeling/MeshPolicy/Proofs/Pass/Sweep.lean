import MeshPolicy.Proofs.Grant.Access
import MeshPolicy.Proofs.Pass.Listing

/-! # What a pass deletes

A pass deletes what it has listed and nobody wants, except where the domain is unavailable.

* `WantsRules`, `WantsBinding`: the identities that the authority asks for, said without a pass.
* `mem_wantedRulesIds`, `mem_wantedBindingIds`: a pass claims exactly those.
* `orphans`: the listed identities that a pass deletes. `Orphans`: which these are.
* `sent_plan`: a plan sends what makes the wanted objects so, and then its deletions.
* `sent_then_orphans`, `run_deletes_orphans`: a pass does so, and its deletions are exact.
-/

namespace MeshPolicy.Pass
set_option autoImplicit false

open Naming

/-! ## Wanted identities -/

/-- Access rules are asked for by a service role of an indexed namespace that was looked up. -/
def WantsRules (answers : Answers) (namespaces : List String) (id : ObjectId) : Prop :=
  id.ns ∈ namespaces ∧ ∃ domain, answers id.ns = .ok domain ∧
    ∃ role ∈ domain.roles, IsServiceRole id.ns role.name id.name

/-- A binding is asked for by such a role with a member that can be written as a subject. -/
def WantsBinding (answers : Answers) (namespaces : List String) (id : ObjectId) : Prop :=
  id.ns ∈ namespaces ∧ ∃ domain, answers id.ns = .ok domain ∧
    ∃ role ∈ domain.roles, IsServiceRole id.ns role.name id.name ∧
      ∃ member ∈ role.members, ∃ subject, memberSubject member = .ok subject

section Wanted

variable {dnsSuffix : String} {answers : Answers} {namespaces : List String} {id : ObjectId}

theorem mem_wantedRulesIds :
    id ∈ (wanted dnsSuffix answers namespaces).filterMap Wanted.rulesId? ↔
      WantsRules answers namespaces id := by
  rw [← map_fst_rules, List.mem_map]
  constructor
  · intro h
    obtain ⟨⟨_, desired⟩, hwant, rfl⟩ := h
    obtain ⟨ns, hns, domain, hanswer, ⟨role, hrole, name, hname, hbuilds⟩, hid⟩ :=
      mem_rulesWants.1 hwant
    cases (Grant.id?_rules hbuilds).symm.trans hid
    exact ⟨hns, domain, hanswer, role, hrole, hname⟩
  · intro h
    obtain ⟨hns, domain, hanswer, role, hrole, hname⟩ := h
    obtain ⟨account, hlast⟩ := exists_lastSegment id.name
    have hbuilds := Grant.rules_of_isServiceRole hname hlast dnsSuffix
      (domain.assertionsFor role.name)
    exact ⟨(id, _), mem_rulesWants.2
      ⟨id.ns, hns, domain, hanswer, ⟨role, hrole, id.name, hname, hbuilds⟩, rfl⟩, rfl⟩

theorem mem_wantedBindingIds :
    id ∈ (wanted dnsSuffix answers namespaces).filterMap Wanted.bindingId? ↔
      WantsBinding answers namespaces id := by
  rw [← map_fst_bindings, List.mem_map]
  constructor
  · intro h
    obtain ⟨⟨_, desired⟩, hwant, rfl⟩ := h
    obtain ⟨ns, hns, domain, hanswer, ⟨role, hrole, name, hname, hbuilds⟩, hid⟩ :=
      mem_bindingWants.1 hwant
    cases (Grant.id?_binding hbuilds).symm.trans hid
    exact ⟨hns, domain, hanswer, role, hrole, hname,
      Grant.subjects_ne_nil_iff.1 (Grant.binding?_eq_some.1 hbuilds).1⟩
  · intro h
    obtain ⟨hns, domain, hanswer, role, hrole, hname, hmember⟩ := h
    have hbuilds : Grant.binding? id.ns id.name role.members = some _ :=
      Grant.binding?_eq_some.2 ⟨Grant.subjects_ne_nil_iff.2 hmember, rfl⟩
    exact ⟨(id, _), mem_bindingWants.2
      ⟨id.ns, hns, domain, hanswer, ⟨role, hrole, id.name, hname, hbuilds⟩, rfl⟩, rfl⟩

end Wanted

/-! ## Orphans -/

section Kind

variable {σ : Type}

/-- The listed identities that nobody has claimed and that may be deleted. -/
def orphans (failed : SortedSet String) (live : LiveIndex σ) (claimed : List ObjectId) :
    List ObjectId :=
  (live.claimAll claimed).unclaimed.filter fun id => !failed.contains (domainOfNamespace id.ns)

theorem filterMap_discardRequest? (failed : SortedSet String) (ids : List ObjectId) :
    ids.filterMap (discardRequest? σ failed) =
      (ids.filter fun id => !failed.contains (domainOfNamespace id.ns)).map (⟨·, .delete⟩) := by
  induction ids with
  | nil => rfl
  | cons id rest ih =>
    rw [List.filterMap_cons, List.filter_cons, ih]
    unfold discardRequest?
    cases failed.contains (domainOfNamespace id.ns) <;> rfl

/-- The identities, ascending, of what is listed, is not shielded and is not wanted. -/
structure Orphans (answers : Answers) (namespaces : List String) (listed : List (Object σ))
    (Wants : ObjectId → Prop) (ids : List ObjectId) : Prop where
  ascending : Ascending ids
  exact : ∀ id, id ∈ ids ↔ (∃ object ∈ listed, object.id? = some id) ∧
    ¬ Shielded answers namespaces id.ns ∧ ¬ Wants id

theorem orphans_exact {objects : List (Object σ)} {live : LiveIndex σ}
    (hlive : LiveIndex.ofObjects? objects = some live) {answers : Answers}
    {namespaces : List String} {claimed : List ObjectId} {Wants : ObjectId → Prop}
    (hclaimed : ∀ id, id ∈ claimed ↔ Wants id) :
    Orphans answers namespaces objects Wants
      (orphans (failedDomains answers namespaces) live claimed) := by
  refine ⟨(SortedMap.ascending _).sublist List.filter_sublist, fun id => ?_⟩
  have hlisted : live.find? id ≠ none ↔ ∃ object ∈ objects, object.id? = some id := by
    rw [LiveIndex.find?_ofObjects hlive]
    simp
  rw [orphans, List.mem_filter, LiveIndex.mem_unclaimed_claimAll hlive, hclaimed, hlisted,
    Bool.not_eq_true', ← Bool.not_eq_true, contains_failedDomains, and_assoc]
  exact and_congr_right fun _ => and_comm

end Kind

/-! ## The writes of a plan -/

section Sent

variable {rules : LiveIndex ServiceRole} {bindings : LiveIndex RoleBinding}

theorem sent?_settle_rules {id : ObjectId} {desired : Object ServiceRole} :
    (settle rules bindings (.rules id desired)).sent? =
      (convergeRequest? rules id desired).map .rules := by
  rw [Option.map_eq_bind]
  exact pick_converge (some ∘ Sent.rules) (fun _ => rfl) (fun _ => rfl) rules id desired

theorem sent?_settle_binding {id : ObjectId} {desired : Object RoleBinding} :
    (settle rules bindings (.binding id desired)).sent? =
      (convergeRequest? bindings id desired).map .binding := by
  rw [Option.map_eq_bind]
  exact pick_converge (some ∘ Sent.binding) (fun _ => rfl) (fun _ => rfl) bindings id desired

/-- What makes the wanted objects so is sent first, then the deletions, kind by kind. -/
theorem sent_plan (failed : SortedSet String) (wants : List Wanted)
    (rules : LiveIndex ServiceRole) (bindings : LiveIndex RoleBinding) :
    (plan failed wants rules bindings).filterMap Step.sent? =
      wants.filterMap (fun want => (settle rules bindings want).sent?) ++
        (orphans failed rules (wants.filterMap Wanted.rulesId?)).map
          (fun id => .rules ⟨id, .delete⟩) ++
        (orphans failed bindings (wants.filterMap Wanted.bindingId?)).map
          (fun id => .binding ⟨id, .delete⟩) := by
  rw [plan, List.filterMap_append, List.filterMap_append, List.filterMap_map,
    filterMap_pick_sweep (fun request => some (Sent.rules request)) (fun _ => rfl) (fun _ => rfl),
    filterMap_pick_sweep (fun request => some (Sent.binding request)) (fun _ => rfl)
      (fun _ => rfl), List.filterMap_eq_map', List.filterMap_eq_map', filterMap_discardRequest?,
    filterMap_discardRequest?, List.map_map, List.map_map]
  rfl

/-- Nothing is deleted to make a wanted object so. -/
theorem call_settle {wants : List Wanted} {sent : Sent}
    (hmem : sent ∈ wants.filterMap fun want => (settle rules bindings want).sent?) :
    sent.call ≠ .delete := by
  obtain ⟨want, _, hsent⟩ := List.mem_filterMap.1 hmem
  cases want with
  | rules id desired =>
    rw [sent?_settle_rules] at hsent
    obtain ⟨request, hrequest, rfl⟩ := Option.map_eq_some_iff.1 hsent
    exact call_convergeRequest? hrequest
  | binding id desired =>
    rw [sent?_settle_binding] at hsent
    obtain ⟨request, hrequest, rfl⟩ := Option.map_eq_some_iff.1 hsent
    exact call_convergeRequest? hrequest
  | note | unavailable | malformed => cases hsent

end Sent

/-! ## The deletions of a pass -/

section Run

variable {ω : Type} {world listed : ω} {listing : Listing}

/-- A pass that has listed both kinds succeeds. It compares what is wanted with what it has listed,
and then deletes the orphans. -/
theorem sent_then_orphans (pass : Pass ω) (hlist : pass.stores.list world = (.ok listing, listed))
    (hn : listing.Named) :
    ∃ rules bindings rulesIds bindingIds,
      LiveIndex.ofObjects? listing.rules = some rules ∧
      LiveIndex.ofObjects? listing.bindings = some bindings ∧
      (∃ tally, (pass.run world).1.result = .ok tally) ∧
      (pass.run world).1.sent =
        (wanted pass.dnsSuffix pass.answers pass.namespaces.keys).filterMap
            (fun want => (settle rules bindings want).sent?) ++
          rulesIds.map (fun id => .rules ⟨id, .delete⟩) ++
          bindingIds.map (fun id => .binding ⟨id, .delete⟩) ∧
      Orphans pass.answers pass.namespaces.keys listing.rules
        (WantsRules pass.answers pass.namespaces.keys) rulesIds ∧
      Orphans pass.answers pass.namespaces.keys listing.bindings
        (WantsBinding pass.answers pass.namespaces.keys) bindingIds := by
  obtain ⟨rules, bindings, hrules, hbindings, hresult, hsent⟩ := sent_of_listed hlist hn
  rw [stepsFor, sent_plan] at hsent
  exact ⟨rules, bindings, _, _, hrules, hbindings, hresult, hsent,
    orphans_exact hrules fun _ => mem_wantedRulesIds,
    orphans_exact hbindings fun _ => mem_wantedBindingIds⟩

/-- A pass over any stores succeeds once it has listed both kinds. Last of all it deletes, of either
kind, exactly the listed objects that are neither shielded nor wanted, however its writes end. What it
sends is what the stores receive. -/
theorem run_deletes_orphans (pass : Pass ω) (hlist : pass.stores.list world = (.ok listing, listed))
    (hn : listing.Named) :
    (∃ tally, (pass.run world).1.result = .ok tally) ∧ pass.Delivers world ∧
      ∃ settled rulesIds bindingIds,
        (pass.run world).1.sent =
          settled ++ rulesIds.map (fun id => .rules ⟨id, .delete⟩) ++
            bindingIds.map (fun id => .binding ⟨id, .delete⟩) ∧
        (∀ sent ∈ settled, sent.call ≠ .delete) ∧
        Orphans pass.answers pass.namespaces.keys listing.rules
          (WantsRules pass.answers pass.namespaces.keys) rulesIds ∧
        Orphans pass.answers pass.namespaces.keys listing.bindings
          (WantsBinding pass.answers pass.namespaces.keys) bindingIds := by
  obtain ⟨rules, bindings, rulesIds, bindingIds, _, _, hresult, hsent, hrulesIds, hbindingIds⟩ :=
    sent_then_orphans pass hlist hn
  exact ⟨hresult, pass.delivers world, _, rulesIds, bindingIds, hsent, fun _ => call_settle,
    hrulesIds, hbindingIds⟩

end Run

/-! ### The shop again

Nobody wants the writer's rules any more. The payer's are not wanted either, but shielded. -/

namespace Shop

def pass : Pass (Disturbed ServiceRole × Disturbed RoleBinding) :=
  ofStores (answersOf lookup) namespaces "mesh" Disturbed.store Disturbed.store

def listing : Listing where
  rules := [.withVersion (.inNamespace "billing" "payer" {}) (some "1"),
    .withVersion (.inNamespace "shop" "writer" {}) (some "2")]
  bindings := []

theorem named : listing.Named where
  rules := by simp [listing]
  bindings := by simp [listing]

theorem list_pass : pass.stores.list world = (.ok listing, world) := rfl

theorem not_wantsRules_writer :
    ¬ WantsRules pass.answers pass.namespaces.keys ⟨"shop", "writer"⟩ := by
  intro h
  obtain ⟨_, found, hfound, role, hrole, hname⟩ := h
  cases hfound
  have hother : ∀ role ∈ domain.roles, role.name ≠ "shop:role.service.role.writer" := by decide
  exact hother role hrole hname.fullName

end Shop

theorem run_deletes_orphans_shop :
    Shop.pass.stores.list Shop.world = (.ok Shop.listing, Shop.world) ∧ Shop.listing.Named ∧
    (∃ tally, (Shop.pass.run Shop.world).1.result = .ok tally) ∧
    ∃ settled, ∃ rulesIds bindingIds : List ObjectId,
      (Shop.pass.run Shop.world).1.sent =
        settled ++ rulesIds.map (fun id => .rules ⟨id, .delete⟩) ++
          bindingIds.map (fun id => .binding ⟨id, .delete⟩) ∧
      (∀ sent ∈ settled, sent.call ≠ .delete) ∧
      ⟨"shop", "writer"⟩ ∈ rulesIds ∧ ⟨"billing", "payer"⟩ ∉ rulesIds := by
  obtain ⟨hresult, _, settled, rulesIds, bindingIds, hsent, hsettled, hrules, _⟩ :=
    run_deletes_orphans Shop.pass Shop.list_pass Shop.named
  refine ⟨Shop.list_pass, Shop.named, hresult, settled, rulesIds, bindingIds, hsent, hsettled,
    (hrules.exact _).2 ⟨⟨_, List.mem_cons_of_mem _ List.mem_cons_self, rfl⟩, ?_,
      Shop.not_wantsRules_writer⟩, fun hmem => ((hrules.exact _).1 hmem).2.1 ?_⟩
  · have hlookup : Shop.lookup (domainOfNamespace "shop") = .ok Shop.domain := rfl
    exact not_shielded_of_ok hlookup
  · exact ⟨"billing", by decide, rfl, _, rfl⟩

end MeshPolicy.Pass
