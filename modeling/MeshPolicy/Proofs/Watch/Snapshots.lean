import MeshPolicy.Proofs.Grant.Changes
import MeshPolicy.Proofs.Text.Spelling
import MeshPolicy.Proofs.Watch.Replay

/-! # Snapshots of signed domains

The snapshot of a signed domain says all that the domain says, in the same order, and an effect that
it cannot make out allows nothing.

* `FirstOccurrences`: a list without its repetitions. `firstOccurrences_eraseDups`.
* `Signed.Allows`: the texts of effects that allow. `effect_ofSigned`: what the others become.
* `Role.Copies`, `Assertion.Copies`, `Policy.Copies`, `Domain.Copies`: what a snapshot has in common
  with its resource, level by level.
* `Domain.FailsClosed`: the rules built from a snapshot permit nothing that the resource does not allow.
* `DomainCache.get_apply_copies`: what the cache answers for a resource it has taken in.
-/

namespace MeshPolicy
set_option autoImplicit false

/-! ## Lists without their repetitions -/

/-- The members are the names, each at the place where it occurs first. -/
structure FirstOccurrences (names members : List String) : Prop where
  mem_iff : ∀ name, name ∈ members ↔ name ∈ names
  inOrder : members.Pairwise fun a b => names.idxOf a < names.idxOf b

/-- Leaving other names out keeps the order of first occurrences. -/
theorem idxOf_lt_of_filter {keep : String → Bool} {names : List String} {a b : String}
    (ha : keep a = true) (hb : keep b = true)
    (h : (names.filter keep).idxOf a < (names.filter keep).idxOf b) :
    names.idxOf a < names.idxOf b := by
  induction names with
  | nil => simp at h
  | cons name rest ih =>
    by_cases hname : keep name = true
    · rw [List.filter_cons_of_pos hname, List.idxOf_cons, List.idxOf_cons] at h
      rw [List.idxOf_cons, List.idxOf_cons]
      by_cases hb' : (name == b) = true
      · simp [hb'] at h
      · by_cases ha' : (name == a) = true
        · simp [ha', hb']
        · simp only [Bool.not_eq_true] at ha' hb'
          simp only [ha', hb', cond_false] at h ⊢
          exact Nat.succ_lt_succ (ih (Nat.lt_of_succ_lt_succ h))
    · have hne {other : String} (hother : keep other = true) : (name == other) = false :=
        beq_false_of_ne fun heq => hname (heq ▸ hother)
      rw [List.filter_cons_of_neg hname] at h
      rw [List.idxOf_cons, List.idxOf_cons, hne ha, hne hb]
      exact Nat.succ_lt_succ (ih h)

theorem firstOccurrences_eraseDups (names : List String) :
    FirstOccurrences names names.eraseDups where
  mem_iff _ := List.mem_eraseDups
  inOrder := by
    -- What is left of the tail is shorter, but no tail itself: the first name is taken out of it.
    induction hlength : names.length using Nat.strongRecOn generalizing names with
    | ind length ih =>
      cases names with
      | nil => exact .nil
      | cons name rest =>
        have hshorter : (rest.filter fun other => !other == name).length < length := by
          rw [← hlength, List.length_cons]
          exact Nat.lt_succ_of_le (List.length_filter_le _ _)
        have hother {other : String} (h : (!other == name) = true) : (name == other) = false :=
          beq_false_of_ne fun heq => by simp [heq] at h
        rw [List.eraseDups_cons]
        refine .cons (fun other hmem => ?_) ?_
        · rw [List.idxOf_cons_self, List.idxOf_cons,
            hother (List.mem_filter.1 (List.mem_eraseDups.1 hmem)).2]
          exact Nat.succ_pos _
        · refine (ih _ hshorter _ rfl).imp_of_mem fun {a b} ha hb hlt => ?_
          have ha' := (List.mem_filter.1 (List.mem_eraseDups.1 ha)).2
          have hb' := (List.mem_filter.1 (List.mem_eraseDups.1 hb)).2
          rw [List.idxOf_cons, List.idxOf_cons, hother ha', hother hb']
          exact Nat.succ_lt_succ (idxOf_lt_of_filter ha' hb' hlt)

/-! ## Effects -/

/-- The text of an effect allows if it is missing or empty, or spells `allow`. -/
def Signed.Allows (effect : Option String) : Prop :=
  effect = none ∨ effect = some "" ∨ ∃ text, effect = some text ∧ Text.Spells text "allow"

theorem Effect.parse_eq_allow_iff {text : String} :
    Effect.parse text = .ok .allow ↔ Text.Spells text "allow" := by
  have hallow : ∀ letter ∈ ("allow").toList, Text.IsSmall letter := by simp [Text.IsSmall]
  rw [← Text.sameIgnoringCase_iff_spells hallow]
  unfold Effect.parse
  split
  next h => simp [h]
  next h => split <;> simp [h]

theorem Signed.Assertion.readEffect_eq_allow_iff {signed : Signed.Assertion} :
    signed.readEffect = .ok .allow ↔ Signed.Allows signed.effect := by
  unfold Signed.Assertion.readEffect Signed.Allows
  cases heffect : signed.effect with
  | none => simp
  | some text =>
    by_cases hempty : text = ""
    · simp [hempty]
    · simp [hempty, Effect.parse_eq_allow_iff]

theorem Assertion.effect_ofSigned {signed : Signed.Assertion} :
    (Assertion.ofSigned signed).effect = .allow ↔ Signed.Allows signed.effect := by
  rw [← Signed.Assertion.readEffect_eq_allow_iff]
  unfold Assertion.ofSigned
  cases signed.readEffect <;> simp

/-- The assertion makes no difference to any rules, wherever it stands among others. -/
def Assertion.AddsNothing (assertion : Assertion) : Prop :=
  ∀ ns dnsSuffix role before after,
    Grant.rules ns dnsSuffix role (before ++ assertion :: after) =
      Grant.rules ns dnsSuffix role (before ++ after)

theorem Grant.rules_congr {assertions assertions' : List Assertion}
    (h : grants assertions = grants assertions') (ns dnsSuffix role : String) :
    rules ns dnsSuffix role assertions = rules ns dnsSuffix role assertions' := by
  by_cases hrefused : IsRefused role
  · rw [rules_of_isRefused hrefused, rules_of_isRefused hrefused]
  · obtain ⟨name, account, _, _, hrules⟩ := rules_of_not_isRefused hrefused
    rw [hrules, hrules, accessRules_eq_iff.2 h]

theorem Assertion.addsNothing_of_ne_allow {assertion : Assertion} (h : assertion.effect ≠ .allow) :
    assertion.AddsNothing := by
  intro ns dnsSuffix role before after
  have hallowing : Grant.allowing (before ++ assertion :: after) =
      Grant.allowing (before ++ after) := by
    rw [Grant.allowing, Grant.allowing, List.filter_append, List.filter_append]
    exact congrArg _ (Grant.allowing_cons_other h after)
  exact Grant.rules_congr (by rw [Grant.grants, Grant.grants, hallowing]) ns dnsSuffix role

/-! ## Snapshots -/

structure Role.Copies (signed : Signed.Role) (role : Role) : Prop where
  name : role.name = signed.name
  members : FirstOccurrences (signed.roleMembers.map Signed.Member.memberName ++ signed.members)
    role.members

structure Assertion.Copies (signed : Signed.Assertion) (assertion : Assertion) : Prop where
  role : assertion.role = signed.role
  action : assertion.action = signed.action
  resource : assertion.resource = signed.resource
  allows : assertion.effect = .allow ↔ Signed.Allows signed.effect
  denies : ¬ Signed.Allows signed.effect → assertion.effect = .deny ∧ assertion.AddsNothing

structure Policy.Copies (signed : Signed.Policy) (policy : Policy) : Prop where
  name : policy.name = signed.name
  assertions : List.Forall₂ Assertion.Copies signed.assertions policy.assertions

/-- The snapshot is called `name` and says what the resource says, item by item. -/
structure Domain.Copies (name : String) (spec : SignedDomain) (domain : Domain) : Prop where
  name : domain.name = name
  roles : List.Forall₂ Role.Copies spec.domain.roles domain.roles
  policies : ∀ signed, spec.domain.policies = some signed →
    List.Forall₂ Policy.Copies signed.contents.policies domain.policies
  unsigned : spec.domain.policies = none → domain.policies = []

theorem Role.copies_ofSigned (signed : Signed.Role) : Role.Copies signed (.ofSigned signed) where
  name := rfl
  members := firstOccurrences_eraseDups _

theorem Assertion.copies_ofSigned (signed : Signed.Assertion) :
    Assertion.Copies signed (.ofSigned signed) where
  role := rfl
  action := rfl
  resource := rfl
  allows := effect_ofSigned
  denies h := by
    have hne : (Assertion.ofSigned signed).effect ≠ .allow := mt effect_ofSigned.1 h
    refine ⟨?_, addsNothing_of_ne_allow hne⟩
    cases heffect : (Assertion.ofSigned signed).effect with
    | allow => exact absurd heffect hne
    | deny => rfl

theorem Policy.copies_ofSigned (signed : Signed.Policy) :
    Policy.Copies signed (.ofSigned signed) where
  name := rfl
  assertions := List.forall₂_map_right_iff.2
    (List.forall₂_same.2 fun a _ => Assertion.copies_ofSigned a)

theorem Domain.copies_ofSigned (name : String) (spec : SignedDomain) :
    Domain.Copies name spec (.ofSigned name spec) where
  name := rfl
  roles := List.forall₂_map_right_iff.2 (List.forall₂_same.2 fun role _ => Role.copies_ofSigned role)
  policies signed hsigned := by
    have hpolicies : spec.policies = signed.contents.policies := by rw [SignedDomain.policies, hsigned]
    rw [Domain.ofSigned, hpolicies]
    exact List.forall₂_map_right_iff.2
      (List.forall₂_same.2 fun policy _ => Policy.copies_ofSigned policy)
  unsigned hnone := by
    rw [Domain.ofSigned, SignedDomain.policies, hnone]
    rfl

/-! ## Rules built from snapshots -/

/-- One of the policies of the resource contains the assertion. -/
def SignedDomain.States (spec : SignedDomain) (signed : Signed.Assertion) : Prop :=
  ∃ policies, spec.domain.policies = some policies ∧
    ∃ policy ∈ policies.contents.policies, signed ∈ policy.assertions

/-- A rule that is built from the snapshot lists a method only if the resource allows it to the role,
on the path of the rule. -/
def Domain.FailsClosed (spec : SignedDomain) (domain : Domain) : Prop :=
  ∀ ns dnsSuffix simpleName role object,
    Grant.rules ns dnsSuffix simpleName (domain.assertionsFor role) = .ok object →
      ∀ rule ∈ object.spec.rules, ∀ method ∈ rule.methods, ∃ signed, spec.States signed ∧
        signed.role = role ∧ Signed.Allows signed.effect ∧ PathIn signed.resource rule.path? ∧
        method = Text.uppercase signed.action

theorem Domain.mem_assertionsFor_ofSigned {name role : String} {spec : SignedDomain}
    {assertion : Assertion} :
    assertion ∈ (Domain.ofSigned name spec).assertionsFor role ↔
      ∃ signed, spec.States signed ∧ signed.role = role ∧ assertion = .ofSigned signed := by
  rw [mem_assertionsFor, Domain.ofSigned, SignedDomain.policies]
  cases hpolicies : spec.domain.policies with
  | none => simp [SignedDomain.States, hpolicies]
  | some policies =>
    simp only [List.mem_map, SignedDomain.States, hpolicies, Option.some.injEq]
    constructor
    · rintro ⟨⟨_, ⟨policy, hpolicy, rfl⟩, hmem⟩, hrole⟩
      obtain ⟨signed, hsigned, rfl⟩ := List.mem_map.1 hmem
      exact ⟨signed, ⟨policies, rfl, policy, hpolicy, hsigned⟩, hrole, rfl⟩
    · rintro ⟨signed, ⟨_, rfl, policy, hpolicy, hsigned⟩, hrole, rfl⟩
      exact ⟨⟨_, ⟨policy, hpolicy, rfl⟩, List.mem_map_of_mem hsigned⟩, hrole⟩

theorem Domain.failsClosed_ofSigned (name : String) (spec : SignedDomain) :
    (Domain.ofSigned name spec).FailsClosed spec := by
  intro ns dnsSuffix simpleName role object hrules rule hrule method hmethod
  have haccepted : ¬ Grant.IsRefused simpleName := fun hrefused => by
    rw [Grant.rules_of_isRefused hrefused] at hrules
    cases hrules
  obtain ⟨_, account, _, _, hbuilt⟩ := Grant.rules_of_not_isRefused haccepted
  rw [hbuilt, Except.ok.injEq] at hrules
  have hpermitted : (rule.path?, method) ∈ object.spec.permissions :=
    ServiceRole.mem_permissions.2 ⟨rule, hrule, rfl, hmethod⟩
  rw [← hrules, Object.spec_inNamespace, Grant.permissions_accessRules, Grant.grants,
    Multiset.mem_coe, List.mem_map] at hpermitted
  obtain ⟨assertion, hallowing, hgrant⟩ := hpermitted
  obtain ⟨hmem, hallow⟩ := List.mem_filter.1 hallowing
  obtain ⟨signed, hstates, hrole, rfl⟩ := mem_assertionsFor_ofSigned.1 hmem
  obtain ⟨hpath, haction⟩ := Prod.mk.inj hgrant
  have hin : PathIn (Assertion.ofSigned signed).resource rule.path? := pathIn_iff.2 hpath.symm
  exact ⟨signed, hstates, hrole, Assertion.effect_ofSigned.1 (by simpa using hallow), hin,
    haction.symm⟩

/-- Once a signed domain is applied, the cache answers its name with all that it says, and nothing is
granted that it does not allow in so many words. -/
theorem DomainCache.get_apply_copies (cache : DomainCache) (name : String) (spec : SignedDomain) :
    ∃ domain, (cache.apply name spec).state.get name = .ok domain ∧ domain.Copies name spec ∧
      domain.FailsClosed spec := by
  refine ⟨.ofSigned name spec, ?_, Domain.copies_ofSigned name spec,
    Domain.failsClosed_ofSigned name spec⟩
  rw [get_eq_ok, get?_apply, if_pos rfl]

/-- Blanks around an effect, and letters that only look like its own, are not made out. -/
example : ["allow ", "\tALLOW", "ａｌｌｏｗ", "grant"].map
    (fun text => (Assertion.ofSigned ⟨"r", "x:/", "get", some text⟩).effect) =
      [.deny, .deny, .deny, .deny] := by decide

end MeshPolicy
