import MeshPolicy.Manager
import MeshPolicy.Proofs.Grant.Canonical
import MeshPolicy.Proofs.Store.Contract

/-! # Changes of assertions and changes of rules

The rules of a role change with what its assertions grant, and with nothing else.

* `Restated`: the assertions say the same in another way.
* `Restated.grants_eq`: what is said in another way grants the same.
* `rules_change_with_grants`: an update writes just when the grants differ.
-/

namespace MeshPolicy.Grant
set_option autoImplicit false

open Naming

/-! ## Assertions that say the same -/

theorem path_of_cut {assertion : Assertion} {start rest : String}
    (cut : assertion.resource = start ++ ":" ++ rest) (first : ':' ∉ start.toList) :
    assertion.path = if rest = "" then none else some rest := by
  by_cases hrest : rest = ""
  · have hnothing : PathIn assertion.resource none :=
      .nothing (by rw [cut, hrest, String.append_empty]) first
    rw [if_pos hrest, ← pathIn_iff.1 hnothing]
  · have hfound : PathIn assertion.resource (some rest) := .found cut first hrest
    rw [if_neg hrest, ← pathIn_iff.1 hfound]

/-- The assertions say the same, in another order, over other policies or in other words. -/
inductive Restated : List Assertion → List Assertion → Prop where
  | reordered {assertions assertions' : List Assertion} (perm : assertions.Perm assertions') :
    Restated assertions assertions'
  /-- The policies of a domain hold the same assertions, spread over them in another way. -/
  | spread {domain domain' : Domain} (role : String)
      (perm : (domain.policies.flatMap Policy.assertions).Perm
        (domain'.policies.flatMap Policy.assertions)) :
    Restated (domain.assertionsFor role) (domain'.assertionsFor role)
  /-- The action has the same upper case. -/
  | action (before after : List Assertion) {assertion : Assertion} {action : String}
      (same : Text.uppercase action = Text.uppercase assertion.action) :
    Restated (before ++ assertion :: after) (before ++ { assertion with action } :: after)
  /-- The resource differs in front of its first colon. -/
  | resource (before after : List Assertion) (start' : String) {assertion : Assertion}
      {start rest : String} (cut : assertion.resource = start ++ ":" ++ rest)
      (first : ':' ∉ start.toList) (first' : ':' ∉ start'.toList) :
    Restated (before ++ assertion :: after)
      (before ++ { assertion with resource := start' ++ ":" ++ rest } :: after)
  | trans {assertions assertions' assertions'' : List Assertion}
      (h : Restated assertions assertions') (h' : Restated assertions' assertions'') :
    Restated assertions assertions''

theorem grants_of_perm {assertions assertions' : List Assertion}
    (h : assertions.Perm assertions') : grants assertions = grants assertions' :=
  Multiset.coe_eq_coe.2 ((h.filter _).map _)

theorem grants_of_same_grant (before after : List Assertion) {assertion assertion' : Assertion}
    (heffect : assertion.effect = assertion'.effect) (hgrant : assertion.grant = assertion'.grant) :
    grants (before ++ assertion :: after) = grants (before ++ assertion' :: after) := by
  have hallowing : (allowing (assertion :: after)).map Assertion.grant =
      (allowing (assertion' :: after)).map Assertion.grant := by
    by_cases hallow : assertion.effect = .allow
    · rw [allowing_cons_allow hallow, allowing_cons_allow (heffect ▸ hallow), List.map_cons,
        List.map_cons, hgrant]
    · rw [allowing_cons_other hallow, allowing_cons_other (heffect ▸ hallow)]
  have hsplit (assertions : List Assertion) : grants (before ++ assertions) =
      ↑((allowing before).map Assertion.grant ++ (allowing assertions).map Assertion.grant) := by
    rw [grants, allowing, List.filter_append, List.map_append]
    rfl
  rw [hsplit, hsplit, hallowing]

theorem Restated.grants_eq {assertions assertions' : List Assertion}
    (h : Restated assertions assertions') : grants assertions = grants assertions' := by
  induction h with
  | reordered perm => exact grants_of_perm perm
  | spread role perm => exact grants_of_perm (perm.filter _)
  | action before after same =>
    exact grants_of_same_grant before after rfl (by rw [Assertion.grant, Assertion.grant, same]; rfl)
  | resource before after start' cut first first' =>
    refine grants_of_same_grant before after rfl ?_
    rw [Assertion.grant, Assertion.grant, path_of_cut cut first, path_of_cut rfl first']
  | trans _ _ ih ih' => exact ih.trans ih'

/-! ## Rules that change -/

theorem accessRules_eq_iff {service : String} {assertions assertions' : List Assertion} :
    accessRules service assertions = accessRules service assertions' ↔
      grants assertions = grants assertions' := by
  constructor
  · intro heq
    rw [← permissions_accessRules service, heq, permissions_accessRules]
  · intro heq
    refine (isCanonical_accessRules service assertions).eq_of_permissions
      (isCanonical_accessRules service assertions') ?_
    rw [permissions_accessRules, permissions_accessRules, heq]

/-- The rules of a role are equal just when the same is granted. An update from the rules of one
list of assertions to those of another asks the store for nothing in this case, as when the assertions
say the same in another way. Otherwise it asks the store to replace the live object, once, and goes by
the answer. -/
theorem rules_change_with_grants {role : String} (hrole : ¬ IsRefused role)
    (ns dnsSuffix : String) (assertions assertions' : List Assertion) :
    ∃ built desired,
      rules ns dnsSuffix role assertions = .ok built ∧
      rules ns dnsSuffix role assertions' = .ok desired ∧
      (built.spec = desired.spec ↔ grants assertions = grants assertions') ∧
      ∀ {ω : Type} (store : Store ServiceRole ω) (manager : Manager ServiceRole ω)
        (live : Object ServiceRole), live.spec = built.spec →
        (grants assertions = grants assertions' →
          manager.update store live desired = (.ok .unchanged, manager)) ∧
        (Restated assertions assertions' →
          manager.update store live desired = (.ok .unchanged, manager)) ∧
        (grants assertions ≠ grants assertions' → ∃ id, desired.id? = some id ∧
          ∀ answer world, store.replace (desired.withVersion live.metadata.resourceVersion)
              manager.world = (answer, world) →
            manager.update store live desired =
              (answer.map fun _ => .updated,
                { manager with
                  world
                  metrics := manager.metrics.countWrite .serviceRole .update
                    (answer.map fun _ => ())
                  writes := manager.writes ++
                    [⟨.replace, .serviceRole, id, answer.map fun _ => ()⟩] })) := by
  obtain ⟨name, account, _, _, hrules⟩ := rules_of_not_isRefused hrole
  refine ⟨_, _, hrules ns dnsSuffix assertions, hrules ns dnsSuffix assertions',
    accessRules_eq_iff, fun store manager live hlive => ?_⟩
  rw [Object.spec_inNamespace] at hlive
  have hsame (heq : grants assertions = grants assertions') :
      manager.update store live (.inNamespace ns name
        (accessRules (serviceIdentifier account ns dnsSuffix) assertions')) =
          (.ok .unchanged, manager) :=
    Manager.update_of_eq store manager (hlive.trans (accessRules_eq_iff.2 heq))
  refine ⟨hsame, fun h => hsame h.grants_eq, fun hne => ⟨⟨ns, name⟩, rfl, ?_⟩⟩
  intro answer world hanswer
  have hspec : live.spec ≠ accessRules (serviceIdentifier account ns dnsSuffix) assertions' := by
    intro heq
    apply hne
    exact accessRules_eq_iff.1 (hlive.symm.trans heq)
  exact Manager.update_of_ne hspec rfl hanswer

/-- The assertions of the shop, in reverse and with the first one in other words. -/
def Shop.restated : List Assertion :=
  [⟨"shop:role.service.role.reader", "GET", "web:/items", .allow⟩,
    ⟨"shop:role.service.role.reader", "delete", "shop:/items", .deny⟩,
    ⟨"shop:role.service.role.reader", "post", "shop", .allow⟩,
    ⟨"shop:role.service.role.reader", "Get", "menu:/items", .allow⟩]

theorem Shop.restated_assertions : Restated assertions restated := by
  have haction : Text.uppercase "Get" = Text.uppercase "get" := by decide +kernel
  have hcut : "shop:/items" = "shop" ++ ":" ++ "/items" := by decide
  refine .trans (.action [] _ haction) (.trans (.resource [] _ "menu" hcut ?_ ?_) ?_)
  · decide
  · decide
  · exact .reordered (List.reverse_perm restated)

theorem Shop.grants_tail : grants assertions ≠ grants assertions.tail := by decide +kernel

/-- A manager of a memory that holds one object. -/
def Shop.holding (id : ObjectId) (object : Object ServiceRole) :
    Manager ServiceRole (Memory ServiceRole) := { world := (Memory.put {} id object).2 }

/-- The rules that are stored stay as they are when the assertions are said in another way, and are
replaced by those for other grants. -/
theorem rules_change_with_grants_reader :
    ¬ IsRefused "service.role.web.reader" ∧
    ∃ built restated desired id live stored after,
      rules "shop" "mesh" "service.role.web.reader" Shop.assertions = .ok built ∧
      rules "shop" "mesh" "service.role.web.reader" Shop.restated = .ok restated ∧
      rules "shop" "mesh" "service.role.web.reader" Shop.assertions.tail = .ok desired ∧
      (Shop.holding id built).world.get? id = some live ∧ live.spec = built.spec ∧
      (Shop.holding id built).update Memory.store live restated =
        (.ok .unchanged, Shop.holding id built) ∧
      (Shop.holding id built).update Memory.store live desired = (.ok .updated, after) ∧
      after.world.get? id = some stored ∧ stored.spec = desired.spec ∧ stored.spec ≠ live.spec := by
  obtain ⟨built, restated, hbuilt, hrestated, _, hunchanged⟩ := rules_change_with_grants
    Shop.not_isRefused_reader "shop" "mesh" Shop.assertions Shop.restated
  obtain ⟨built', desired, hbuilt', hdesired, hspec, hupdate⟩ := rules_change_with_grants
    Shop.not_isRefused_reader "shop" "mesh" Shop.assertions Shop.assertions.tail
  obtain rfl : built = built' := Except.ok.inj (hbuilt.symm.trans hbuilt')
  obtain ⟨id, hid, -⟩ := (hupdate Memory.store { world := {} } built rfl).2.2 Shop.grants_tail
  let memory : Memory ServiceRole := (Memory.put {} id built).2
  let live := (Memory.put {} id built).1
  obtain ⟨version, hlive⟩ : ∃ version, live = built.withVersion (some version) :=
    Memory.put_versions {} id built
  have hheld : memory.get? id = some live := by rw [Memory.get?_put, if_pos rfl]
  let sent := desired.withVersion live.metadata.resourceVersion
  have hanswer : Memory.store.replace sent memory =
      (.ok (memory.put id sent).1, (memory.put id sent).2) :=
    Memory.replace_of_current hid hheld (by rw [hlive]; rfl) rfl
  obtain ⟨id', -, hsent⟩ :=
    (hupdate Memory.store (Shop.holding id built) live rfl).2.2 Shop.grants_tail
  obtain ⟨version', hstored⟩ := Memory.put_versions memory id sent
  refine ⟨Shop.not_isRefused_reader, built, restated, desired, id, live, (memory.put id sent).1, _,
    hbuilt, hrestated, hdesired, hheld, rfl, ?_, hsent _ _ hanswer, ?_, ?_, ?_⟩
  · exact (hunchanged Memory.store (Shop.holding id built) live rfl).2.1 Shop.restated_assertions
  · exact (Memory.get?_put memory id id sent).trans (if_pos rfl)
  · rw [hstored]
    rfl
  · rw [hstored]
    intro hsame
    exact Shop.grants_tail (hspec.1 hsame.symm)

end MeshPolicy.Grant
