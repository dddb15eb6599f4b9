import MeshPolicy.Proofs.Pass.Shielding

/-! # What a pass leaves behind

Over two stores that keep their contract, one pass brings both kinds of objects to what is built
for the namespaces, whatever was stored before.

* `Pass.ofStores`: a pass over two stores that know nothing of each other.
* `performAll_ofStores`: each store sees the writes of its own kind, in turn.
* `run_settles`: a pass succeeds and settles both kinds.
* `Healed`: what one kind holds after a pass. `Settles.healed`: a settled kind is healed.
-/

namespace MeshPolicy
set_option autoImplicit false

open Naming

namespace Pass

variable {ω₁ ω₂ : Type}

/-! ## Two stores -/

/-- A pass over two stores that know nothing of each other. -/
def ofStores (answers : Answers) (namespaces : SortedSet String) (dnsSuffix : String)
    (rules : Store ServiceRole ω₁) (bindings : Store RoleBinding ω₂) : Pass (ω₁ × ω₂) where
  answers := answers
  namespaces := namespaces
  dnsSuffix := dnsSuffix
  rules := rules.inFirst
  bindings := bindings.inSecond

theorem perform_inFirst {σ : Type} (store : Store σ ω₁) (request : Request σ) (world : ω₁ × ω₂) :
    store.inFirst.perform request world =
      ((store.perform request world.1).1, (store.perform request world.1).2, world.2) := by
  unfold Store.perform
  cases request.action <;> rfl

theorem perform_inSecond {σ : Type} (store : Store σ ω₂) (request : Request σ) (world : ω₁ × ω₂) :
    store.inSecond.perform request world =
      ((store.perform request world.2).1, world.1, (store.perform request world.2).2) := by
  unfold Store.perform
  cases request.action <;> rfl

/-! ## Runs -/

section Over

variable (answers : Answers) (namespaces : SortedSet String) (dnsSuffix : String)

/-- Each store sees the writes of its own kind, in turn. -/
theorem performAll_ofStores (rules : Store ServiceRole ω₁) (bindings : Store RoleBinding ω₂)
    (steps : List Step) (world : ω₁ × ω₂) :
    ((ofStores answers namespaces dnsSuffix rules bindings).performAll steps world).2 =
      (rules.performAll (steps.filterMap Step.rulesRequest?) world.1,
        bindings.performAll (steps.filterMap Step.bindingRequest?) world.2) := by
  induction steps generalizing world with
  | nil => rfl
  | cons step rest ih =>
    simp only [performAll, ih]
    cases step with
    | rules request =>
      simp only [perform, ofStores, perform_inFirst, List.filterMap_cons, Step.rulesRequest?,
        Step.bindingRequest?, Store.performAll]
    | binding request =>
      simp only [perform, ofStores, perform_inSecond, List.filterMap_cons, Step.rulesRequest?,
        Step.bindingRequest?, Store.performAll]
    | _ => rfl

variable {rules : Store ServiceRole ω₁} {bindings : Store RoleBinding ω₂}

/-- A pass over stores that keep their contract lists both, and then carries out its plan. -/
theorem run_ofStores (rulesContract : rules.Contract) (bindingsContract : bindings.Contract)
    {world : ω₁ × ω₂} (hr : rulesContract.Sound world.1) (hb : bindingsContract.Sound world.2) :
    ∃ rulesLive bindingsLive listed entries after,
      Lists rulesContract world.1 listed.1 rulesLive ∧
      Lists bindingsContract world.2 listed.2 bindingsLive ∧
      (ofStores answers namespaces dnsSuffix rules bindings).performAll
          (plan (failedDomains answers namespaces.keys) (wanted dnsSuffix answers namespaces.keys)
            rulesLive bindingsLive) listed = (entries, after) ∧
      (ofStores answers namespaces dnsSuffix rules bindings).run world =
        ({ entries, result := .ok (tallyOf (failedDomains answers namespaces.keys) entries) },
          after) := by
  obtain ⟨world₁, rulesLive, hrules⟩ := exists_lists rulesContract hr
  obtain ⟨world₂, bindingsLive, hbindings⟩ := exists_lists bindingsContract hb
  obtain ⟨rulesListed, hlistRules, hliveRules⟩ := hrules.listed
  obtain ⟨bindingsListed, hlistBindings, hliveBindings⟩ := hbindings.listed
  refine ⟨rulesLive, bindingsLive, (world₁, world₂), _, _, hrules, hbindings, rfl, ?_⟩
  simp [run, ofStores, Store.inFirst, Store.inSecond, hlistRules, hlistBindings, planFor, hliveRules,
    hliveBindings, failed]

/-- What the stores hold after a run that succeeds, beside what they held before it. -/
structure Settled (rulesContract : rules.Contract) (bindingsContract : bindings.Contract)
    (before after : ω₁ × ω₂) : Prop where
  rulesSound : rulesContract.Sound after.1
  bindingsSound : bindingsContract.Sound after.2
  rules : Settles (failedDomains answers namespaces.keys)
    ((wanted dnsSuffix answers namespaces.keys).filterMap Wanted.rules?)
    (rulesContract.contents before.1) (rulesContract.contents after.1)
  bindings : Settles (failedDomains answers namespaces.keys)
    ((wanted dnsSuffix answers namespaces.keys).filterMap Wanted.binding?)
    (bindingsContract.contents before.2) (bindingsContract.contents after.2)

/-- A pass over stores that keep their contract succeeds and settles both kinds. -/
theorem run_settles (rulesContract : rules.Contract) (bindingsContract : bindings.Contract)
    {world : ω₁ × ω₂} (hr : rulesContract.Sound world.1) (hb : bindingsContract.Sound world.2)
    (hroles : NoRoleTwice answers namespaces.keys) :
    ∃ report after,
      (ofStores answers namespaces dnsSuffix rules bindings).run world = (report, after) ∧
      (∃ tally, report.result = .ok tally) ∧
      Settled answers namespaces dnsSuffix rulesContract bindingsContract world after := by
  obtain ⟨rulesLive, bindingsLive, listed, entries, after, hrules, hbindings, hperform, hrun⟩ :=
    run_ofStores answers namespaces dnsSuffix rulesContract bindingsContract hr hb
  have hafter := congrArg Prod.snd hperform
  rw [performAll_ofStores, rulesRequests_plan, bindingRequests_plan] at hafter
  subst hafter
  have hnamespaces := SortedMap.nodup_keys namespaces
  obtain ⟨hrulesSound, hrulesSettles⟩ := settles_performAll (failedDomains answers namespaces.keys)
    hrules (fun want hwant => (answered_rulesWants want hwant).1)
    (nodup_rulesWants dnsSuffix hnamespaces hroles)
  obtain ⟨hbindingsSound, hbindingsSettles⟩ :=
    settles_performAll (failedDomains answers namespaces.keys)
      hbindings (fun want hwant => (answered_bindingWants want hwant).1)
      (nodup_bindingWants dnsSuffix hnamespaces hroles)
  exact ⟨_, _, hrun, ⟨_, rfl⟩, hrulesSound, hbindingsSound, hrulesSettles, hbindingsSettles⟩

end Over

/-! ## What is left behind -/

/-- What one kind holds after a pass: what is built for a namespace whose domain was looked up, what
it held before where the domain is unavailable, and nothing anywhere else. -/
structure Healed {σ : Type} (lookup : Lookup) (namespaces : SortedSet String)
    (Builds : String → Domain → Object σ → Prop) (before after : Contents σ) : Prop where
  built : ∀ ns ∈ namespaces.keys, ∀ domain, lookup (domainOfNamespace ns) = .ok domain →
    ∀ name spec, (∃ stored, after ⟨ns, name⟩ = some stored ∧ stored.spec = spec) ↔
      ∃ desired, Builds ns domain desired ∧ desired.id? = some ⟨ns, name⟩ ∧ desired.spec = spec
  kept : ∀ id, Shielded (answersOf lookup) namespaces.keys id.ns → after id = before id
  cleared : ∀ id, id.ns ∉ namespaces.keys → ¬ Shielded (answersOf lookup) namespaces.keys id.ns →
    after id = none

/-- A kind whose wants are settled is healed, if what is wanted is what is built. -/
theorem Settles.healed {σ : Type} {lookup : Lookup} {namespaces : SortedSet String}
    {Builds : String → Domain → Object σ → Prop} {wants : List (ObjectId × Object σ)}
    {before after : Contents σ}
    (h : Settles (failedDomains (answersOf lookup) namespaces.keys) wants before after)
    (hmem : ∀ id desired, (id, desired) ∈ wants ↔ ∃ ns ∈ namespaces.keys, ∃ domain,
      lookup (domainOfNamespace ns) = .ok domain ∧ Builds ns domain desired ∧
        desired.id? = some id)
    (hns : ∀ ns domain desired id, Builds ns domain desired → desired.id? = some id → id.ns = ns) :
    Healed lookup namespaces Builds before after := by
  -- What is wanted lies in indexed namespaces that were looked up, and never where it is shielded.
  have hwanted : ∀ id ∈ wants.map Prod.fst, id.ns ∈ namespaces.keys ∧
      ∃ domain, lookup (domainOfNamespace id.ns) = .ok domain := by
    intro id hid
    obtain ⟨⟨_, desired⟩, hwant, rfl⟩ := List.mem_map.1 hid
    obtain ⟨ns, hindexed, domain, hlookup, hbuilds, hown⟩ := (hmem _ _).1 hwant
    obtain rfl := hns _ _ _ _ hbuilds hown
    exact ⟨hindexed, domain, hlookup⟩
  refine ⟨fun ns hindexed domain hlookup name spec => ⟨?_, ?_⟩, fun id hshielded => ?_,
    fun id hnot hshielded => ?_⟩
  · intro h'
    obtain ⟨stored, hstored, rfl⟩ := h'
    by_cases hid : (⟨ns, name⟩ : ObjectId) ∈ wants.map Prod.fst
    · obtain ⟨⟨_, desired⟩, hwant, rfl⟩ := List.mem_map.1 hid
      obtain ⟨ns', _, domain', hlookup', hbuilds, hown⟩ := (hmem _ _).1 hwant
      obtain rfl : ns = ns' := hns _ _ _ _ hbuilds hown
      obtain rfl : domain = domain' := Except.ok.inj (hlookup.symm.trans hlookup')
      obtain ⟨stored', hstored', hspec⟩ := h.wanted _ hwant
      obtain rfl : stored = stored' := Option.some.inj (hstored.symm.trans hstored')
      exact ⟨desired, hbuilds, hown, hspec.symm⟩
    · have hleft := h.unwanted _ hid
      rw [if_neg fun hfailed => not_shielded_of_ok hlookup (contains_failedDomains.1 hfailed)]
        at hleft
      rw [hleft] at hstored
      cases hstored
  · intro h'
    obtain ⟨desired, hbuilds, hown, rfl⟩ := h'
    exact h.wanted _ ((hmem ⟨ns, name⟩ desired).2 ⟨ns, hindexed, domain, hlookup, hbuilds, hown⟩)
  · have hid : id ∉ wants.map Prod.fst := fun hmem => by
      obtain ⟨_, domain, hlookup⟩ := hwanted id hmem
      exact not_shielded_of_ok hlookup hshielded
    rw [h.unwanted id hid, if_pos (contains_failedDomains.2 hshielded)]
  · have hid : id ∉ wants.map Prod.fst := fun hmem => hnot (hwanted id hmem).1
    rw [h.unwanted id hid, if_neg fun hfailed => hshielded (contains_failedDomains.1 hfailed)]

section Healing

variable {rules : Store ServiceRole ω₁} {bindings : Store RoleBinding ω₂}
  {rulesContract : rules.Contract} {bindingsContract : bindings.Contract} {lookup : Lookup}
  {namespaces : SortedSet String} {dnsSuffix : String} {before after : ω₁ × ω₂}

theorem Settled.healed_rules (h : Settled (answersOf lookup) namespaces dnsSuffix rulesContract
      bindingsContract before after) :
    Healed lookup namespaces (BuildsRules dnsSuffix) (rulesContract.contents before.1)
      (rulesContract.contents after.1) :=
  h.rules.healed (fun _ _ => mem_rulesWants) fun _ _ _ _ hbuilds hid => hbuilds.ns_eq hid

theorem Settled.healed_bindings (h : Settled (answersOf lookup) namespaces dnsSuffix rulesContract
      bindingsContract before after) :
    Healed lookup namespaces BuildsBinding (bindingsContract.contents before.2)
      (bindingsContract.contents after.2) :=
  h.bindings.healed (fun _ _ => mem_bindingWants) fun _ _ _ _ hbuilds hid => hbuilds.ns_eq hid

end Healing

/-- One pass over stores that keep their contract heals both kinds from whatever they hold, if no
domain lists a role twice. -/
theorem run_heals {rules : Store ServiceRole ω₁} {bindings : Store RoleBinding ω₂}
    (rulesContract : rules.Contract) (bindingsContract : bindings.Contract) (lookup : Lookup)
    (namespaces : SortedSet String) (dnsSuffix : String) {world : ω₁ × ω₂}
    (hr : rulesContract.Sound world.1) (hb : bindingsContract.Sound world.2)
    (hroles : NoRoleTwice (answersOf lookup) namespaces.keys) :
    ∃ report after,
      (ofStores (answersOf lookup) namespaces dnsSuffix rules bindings).run world = (report, after) ∧
      (∃ tally, report.result = .ok tally) ∧
      Healed lookup namespaces (BuildsRules dnsSuffix) (rulesContract.contents world.1)
        (rulesContract.contents after.1) ∧
      Healed lookup namespaces BuildsBinding (bindingsContract.contents world.2)
        (bindingsContract.contents after.2) := by
  obtain ⟨report, after, hrun, hresult, hsettled⟩ :=
    run_settles (answersOf lookup) namespaces dnsSuffix rulesContract bindingsContract hr hb hroles
  exact ⟨report, after, hrun, hresult, hsettled.healed_rules, hsettled.healed_bindings⟩

/-! ### A shop

The authority answers for `shop`, where `people.alice` may get `/items`, and not for `billing`. The
rules that are stored for both of them were written by someone else. -/

namespace Shop

def domain : Domain where
  name := "shop"
  roles := [⟨"shop:role.service.role.reader", ["people.alice"]⟩,
    ⟨"shop:role.service.role.nobody.", []⟩]
  policies := [⟨"shop:policy.reader",
    [{ role := "shop:role.service.role.reader", action := "get", resource := "shop:/items" }]⟩]

def lookup : Lookup := fun name =>
  if name = "shop" then .ok domain else .error (.unavailable name "timed out")

def namespaces : SortedSet String := .ofList [("shop", ()), ("billing", ())]

def rules : Memory ServiceRole :=
  let earlier : Memory ServiceRole :=
    (Memory.put {} ⟨"billing", "payer"⟩ (.inNamespace "billing" "payer" {})).2
  (earlier.put ⟨"shop", "writer"⟩ (.inNamespace "shop" "writer" {})).2

def world : Disturbed ServiceRole × Disturbed RoleBinding := ({ memory := rules }, {})

theorem sound_rules : Disturbed.contract.Sound world.1 :=
  ⟨⟨rfl, rfl⟩, (Memory.sound_empty.put rfl).put rfl⟩

theorem sound_bindings : Disturbed.contract.Sound world.2 := ⟨⟨rfl, rfl⟩, Memory.sound_empty⟩

theorem noRoleTwice : NoRoleTwice (answersOf lookup) namespaces.keys := by
  intro ns _ found h
  simp only [answersOf, lookup] at h
  split at h
  · cases h
    decide
  · cases h

end Shop

theorem run_heals_shop : ∃ report after,
    (ofStores (answersOf Shop.lookup) Shop.namespaces "mesh" Disturbed.store Disturbed.store).run
      Shop.world = (report, after) ∧
    (∃ tally, report.result = .ok tally) ∧
    Healed Shop.lookup Shop.namespaces (BuildsRules "mesh") Shop.world.1.memory.get?
      after.1.memory.get? ∧
    Healed Shop.lookup Shop.namespaces BuildsBinding Shop.world.2.memory.get?
      after.2.memory.get? :=
  run_heals Disturbed.contract Disturbed.contract Shop.lookup Shop.namespaces "mesh"
    Shop.sound_rules Shop.sound_bindings Shop.noRoleTwice

end Pass

end MeshPolicy
