import MeshPolicy.Proofs.Pass.Convergence

/-! # The access that a pass grants

* `Access`: one way for a subject to use a service.
* `Granted`: what the authority grants, read off a domain alone.
* `Readable`: what the stored objects grant in a namespace.
* `PathIn`: the path in a resource, said without the function that finds it.
* `readable_iff_granted`: both agree once a pass has healed the stores.
-/

namespace MeshPolicy
set_option autoImplicit false

open Naming

/-- One way for a subject to use a service. Access without a path is access to all of them. -/
structure Access where
  subject : String
  service : String
  path : Option String
  method : String
  deriving DecidableEq, Repr

/-! ## What the authority grants -/

/-- The path in a resource is all that follows its first colon, if there is anything. -/
inductive PathIn (resource : String) : Option String → Prop where
  | found {before path : String} (cut : resource = before ++ ":" ++ path)
      (first : ':' ∉ before.toList) (nonempty : path ≠ "") : PathIn resource (some path)
  | nothing {before : String} (cut : resource = before ++ ":") (first : ':' ∉ before.toList) :
      PathIn resource none
  | noColon (noColon : ':' ∉ resource.toList) : PathIn resource none

/-- A cut of a text at its first colon, in terms of texts. -/
theorem splitFirst_colon_eq_some_iff {text : String} {before after : List Char} :
    Text.splitFirst ':' text.toList = some (before, after) ↔
      text = .ofList before ++ ":" ++ .ofList after ∧ ':' ∉ before := by
  have hcolon : (":").toList = [':'] := rfl
  rw [Text.splitFirst_eq_some_iff, ← String.toList_inj]
  simp [String.toList_append, hcolon]

theorem pathIn_iff {assertion : Assertion} {path : Option String} :
    PathIn assertion.resource path ↔ path = assertion.path := by
  constructor
  · intro h
    unfold Assertion.path
    cases h with
    | @found before path cut first nonempty =>
      have hsplit : Text.splitFirst ':' assertion.resource.toList =
          some (before.toList, path.toList) :=
        splitFirst_colon_eq_some_iff.2 ⟨by simpa using cut, first⟩
      rw [hsplit]
      cases hpath : path.toList with
      | nil => exact absurd (String.toList_eq_nil_iff.1 hpath) nonempty
      | cons c cs => simp [← hpath]
    | @nothing before cut first =>
      have hsplit : Text.splitFirst ':' assertion.resource.toList = some (before.toList, []) :=
        splitFirst_colon_eq_some_iff.2 ⟨by simpa using cut, first⟩
      rw [hsplit]
    | noColon noColon => rw [Text.splitFirst_eq_none_iff.2 noColon]
  · rintro rfl
    unfold Assertion.path
    cases hsplit : Text.splitFirst ':' assertion.resource.toList with
    | none => exact .noColon (Text.splitFirst_eq_none_iff.1 hsplit)
    | some parts =>
      obtain ⟨before, after⟩ := parts
      obtain ⟨cut, first⟩ := splitFirst_colon_eq_some_iff.1 hsplit
      cases after with
      | nil => exact .nothing (by simpa using cut) (by simpa using first)
      | cons c cs => exact .found cut (by simpa using first) (by simp)

/-- A service role grants its account's service to each of its members, on the path and with the
method of each assertion that allows it. -/
structure GrantedBy (dnsSuffix ns : String) (domain : Domain) (role : Role) (member : String)
    (assertion : Assertion) (access : Access) : Prop where
  service : ∃ name account, IsServiceRole ns role.name name ∧ LastSegment name account ∧
    access.service = account ++ "." ++ ns ++ "." ++ dnsSuffix
  subject : ∃ home name, member = home ++ "." ++ name ∧ '.' ∉ name.toList ∧ home ≠ "" ∧ name ≠ "" ∧
    access.subject = home ++ "/sa/" ++ name
  forRole : assertion.role = role.name
  allows : assertion.effect = .allow
  path : PathIn assertion.resource access.path
  method : access.method = Text.uppercase assertion.action

def Granted (dnsSuffix ns : String) (domain : Domain) (access : Access) : Prop :=
  ∃ role ∈ domain.roles, ∃ member ∈ role.members, ∃ policy ∈ domain.policies,
    ∃ assertion ∈ policy.assertions, GrantedBy dnsSuffix ns domain role member assertion access

/-! ## What objects grant -/

/-- The rule lists the service, the path, or no path at all, and the method. -/
structure AccessRule.Permits (rule : AccessRule) (service : String) (path : Option String)
    (method : String) : Prop where
  service : service ∈ rule.services
  path : match path with
    | some path => path ∈ rule.paths
    | none => rule.paths = []
  method : method ∈ rule.methods

/-- What the stored objects grant in a namespace. -/
def Readable (ns : String) (rules : Contents ServiceRole) (bindings : Contents RoleBinding)
    (access : Access) : Prop :=
  ∃ name binding, bindings ⟨ns, name⟩ = some binding ∧
    (∃ subject ∈ binding.spec.subjects, subject.user = some access.subject) ∧
    ∃ role object, binding.spec.roleRef = .serviceRole role ∧ rules ⟨ns, role⟩ = some object ∧
      ∃ rule ∈ object.spec.rules, rule.Permits access.service access.path access.method

namespace Grant

theorem permits_ruleOn {service service' method : String} {assertions : List Assertion}
    {path path' : Option String} :
    (ruleOn service assertions path).Permits service' path' method ↔
      service' = service ∧ path' = path ∧ ∃ a ∈ assertions, a.path = path ∧ a.effect = .allow ∧
        Text.uppercase a.action = method := by
  have hmethod : method ∈ methodsOn assertions path ↔ ∃ a ∈ assertions, a.path = path ∧
      a.effect = .allow ∧ Text.uppercase a.action = method := by
    rw [methodsOn, (sortInOrder_perm _).mem_iff]
    simp [allowing, and_assoc]
  have hpath : (match path' with
      | some path' => path' ∈ path.toList
      | none => path.toList = []) ↔ path' = path := by
    cases path' <;> cases path <;> simp [eq_comm]
  rw [← hmethod, ← hpath]
  constructor
  · intro h
    obtain ⟨hservice, hpaths, hmethods⟩ := h
    exact ⟨List.mem_singleton.1 hservice, hpaths, hmethods⟩
  · intro h
    obtain ⟨rfl, hpaths, hmethods⟩ := h
    exact ⟨List.mem_singleton.2 rfl, hpaths, hmethods⟩

theorem permits_accessRules {service service' method : String} {assertions : List Assertion}
    {path : Option String} :
    (∃ rule ∈ (accessRules service assertions).rules, rule.Permits service' path method) ↔
      service' = service ∧ ∃ a ∈ assertions, a.path = path ∧ a.effect = .allow ∧
        Text.uppercase a.action = method := by
  simp only [accessRules, List.mem_map]
  constructor
  · intro h
    obtain ⟨_, ⟨_, _, rfl⟩, hpermits⟩ := h
    obtain ⟨rfl, rfl, a, ha⟩ := permits_ruleOn.1 hpermits
    exact ⟨rfl, a, ha⟩
  · intro h
    obtain ⟨rfl, a, ha, rfl, hallow, hmethod⟩ := h
    refine ⟨_, ⟨a.path, ?_, rfl⟩, permits_ruleOn.2 ⟨rfl, rfl, a, ha, rfl, hallow, hmethod⟩⟩
    rw [grantedPaths, SortedMap.mem_keys_ofList]
    simp only [List.map_map, List.mem_map, allowing, List.mem_filter]
    exact ⟨a, ⟨ha, by simp [hallow]⟩, rfl⟩

theorem mem_subjects {members : List String} {user : String} :
    (∃ subject ∈ subjects members, subject.user = some user) ↔
      ∃ member ∈ members, memberSubject member = .ok user := by
  simp only [subjects, List.mem_filterMap]
  constructor
  · intro h
    obtain ⟨_, ⟨member, hmember, hsubject⟩, huser⟩ := h
    obtain ⟨own, hown, rfl⟩ := Option.map_eq_some_iff.1 hsubject
    obtain rfl : own = user := Option.some.inj huser
    cases hok : memberSubject member with
    | error => simp [hok, Except.toOption] at hown
    | ok subject =>
      simp only [hok, Except.toOption, Option.some.injEq] at hown
      exact ⟨member, hmember, by rw [hok, hown]⟩
  · intro h
    obtain ⟨member, hmember, hok⟩ := h
    exact ⟨.ofUser user, ⟨member, hmember, by rw [hok]; rfl⟩, rfl⟩

theorem subjects_ne_nil_iff {members : List String} :
    subjects members ≠ [] ↔ ∃ member ∈ members, ∃ subject, memberSubject member = .ok subject := by
  simp only [subjects, ne_eq, List.filterMap_eq_nil_iff, not_forall, exists_prop]
  refine exists_congr fun member => and_congr_right fun _ => ?_
  cases memberSubject member <;> simp [Except.toOption]

theorem binding?_eq_some {ns name : String} {members : List String} {desired : Object RoleBinding} :
    binding? ns name members = some desired ↔ subjects members ≠ [] ∧
      desired = .inNamespace ns name
        { subjects := subjects members, roleRef := .serviceRole name } := by
  unfold binding?
  split
  next h => simp [h]
  next h =>
    rw [Option.some.injEq]
    constructor
    · rintro rfl
      exact ⟨h, rfl⟩
    · intro h'
      obtain ⟨_, rfl⟩ := h'
      rfl

end Grant

theorem mem_assertionsFor {domain : Domain} {role : String} {assertion : Assertion} :
    assertion ∈ domain.assertionsFor role ↔
      (∃ policy ∈ domain.policies, assertion ∈ policy.assertions) ∧ assertion.role = role := by
  simp [Domain.assertionsFor]

section Healed

variable {lookup : Lookup} {namespaces : SortedSet String} {dnsSuffix : String}
  {rulesBefore rules : Contents ServiceRole} {bindingsBefore bindings : Contents RoleBinding}
  {ns : String} {domain : Domain}

theorem holds_rules
    (h : Pass.Healed lookup namespaces (BuildsRules dnsSuffix) rulesBefore rules)
    (hns : ns ∈ namespaces.keys) (hlookup : lookup (domainOfNamespace ns) = .ok domain)
    {name : String} {spec : ServiceRole} :
    (∃ stored, rules ⟨ns, name⟩ = some stored ∧ stored.spec = spec) ↔
      ∃ role ∈ domain.roles, ∃ account, IsServiceRole ns role.name name ∧
        LastSegment name account ∧ spec = Grant.accessRules (serviceIdentifier account ns dnsSuffix)
          (domain.assertionsFor role.name) := by
  rw [h.built ns hns domain hlookup]
  constructor
  · intro h'
    obtain ⟨desired, ⟨role, hrole, own, hown, hbuilds⟩, hid, rfl⟩ := h'
    cases (Grant.id?_rules hbuilds).symm.trans hid
    obtain ⟨account, hlast⟩ := exists_lastSegment name
    rw [Grant.rules_of_isServiceRole hown hlast, Except.ok.injEq] at hbuilds
    exact ⟨role, hrole, account, hown, hlast, by rw [← hbuilds]; rfl⟩
  · intro h'
    obtain ⟨role, hrole, account, hname, hlast, rfl⟩ := h'
    exact ⟨_, ⟨role, hrole, name, hname, Grant.rules_of_isServiceRole hname hlast _ _⟩, rfl, rfl⟩

theorem holds_binding (h : Pass.Healed lookup namespaces BuildsBinding bindingsBefore bindings)
    (hns : ns ∈ namespaces.keys) (hlookup : lookup (domainOfNamespace ns) = .ok domain)
    {name : String} {spec : RoleBinding} :
    (∃ stored, bindings ⟨ns, name⟩ = some stored ∧ stored.spec = spec) ↔
      ∃ role ∈ domain.roles, IsServiceRole ns role.name name ∧ Grant.subjects role.members ≠ [] ∧
        spec = { subjects := Grant.subjects role.members, roleRef := .serviceRole name } := by
  rw [h.built ns hns domain hlookup]
  constructor
  · intro h'
    obtain ⟨desired, ⟨role, hrole, own, hown, hbuilds⟩, hid, rfl⟩ := h'
    cases (Grant.id?_binding hbuilds).symm.trans hid
    obtain ⟨hsome, rfl⟩ := Grant.binding?_eq_some.1 hbuilds
    exact ⟨role, hrole, hown, hsome, rfl⟩
  · intro h'
    obtain ⟨role, hrole, hname, hsome, rfl⟩ := h'
    exact ⟨_, ⟨role, hrole, name, hname, Grant.binding?_eq_some.2 ⟨hsome, rfl⟩⟩, rfl, rfl⟩

/-- Both agree in a namespace that holds what is built for it. -/
theorem readable_iff_granted
    (hr : Pass.Healed lookup namespaces (BuildsRules dnsSuffix) rulesBefore rules)
    (hb : Pass.Healed lookup namespaces BuildsBinding bindingsBefore bindings)
    (hns : ns ∈ namespaces.keys) (hlookup : lookup (domainOfNamespace ns) = .ok domain)
    (access : Access) :
    Readable ns rules bindings access ↔ Granted dnsSuffix ns domain access := by
  constructor
  · intro h'
    obtain ⟨name, binding, hbinding, hsubject, name', object, href, hobject, rule, hrule,
      hpermits⟩ := h'
    obtain ⟨role, hrole, hname, _, hspec⟩ :=
      (holds_binding hb hns hlookup).1 ⟨binding, hbinding, rfl⟩
    rw [hspec] at hsubject href
    obtain rfl : name = name' := congrArg RoleRef.name href
    obtain ⟨role', _, account, hname', hlast, hrules⟩ :=
      (holds_rules hr hns hlookup).1 ⟨object, hobject, rfl⟩
    rw [hrules, hname'.fullName, ← hname.fullName] at hrule
    obtain ⟨hservice, assertion, hassertion, hpath, hallow, hmethod⟩ :=
      Grant.permits_accessRules.1 ⟨rule, hrule, hpermits⟩
    obtain ⟨⟨policy, hpolicy, hmem⟩, hfor⟩ := mem_assertionsFor.1 hassertion
    obtain ⟨member, hmember, hok⟩ := Grant.mem_subjects.1 hsubject
    exact ⟨role, hrole, member, hmember, policy, hpolicy, assertion, hmem,
      ⟨name, account, hname, hlast, hservice⟩, memberSubject_eq_ok_iff.1 hok, hfor, hallow,
      pathIn_iff.2 hpath.symm, hmethod.symm⟩
  · intro h'
    obtain ⟨role, hrole, member, hmember, policy, hpolicy, assertion, hmem, h⟩ := h'
    obtain ⟨name, account, hname, hlast, hservice⟩ := h.service
    have hsubject := Grant.mem_subjects.2 ⟨member, hmember, memberSubject_eq_ok_iff.2 h.subject⟩
    have hsome : Grant.subjects role.members ≠ [] := by
      obtain ⟨subject, hsubject, _⟩ := hsubject
      exact List.ne_nil_of_mem hsubject
    obtain ⟨binding, hbinding, hspec⟩ := (holds_binding hb hns hlookup).2
      ⟨role, hrole, hname, hsome, rfl⟩
    obtain ⟨object, hobject, hrules⟩ := (holds_rules hr hns hlookup).2
      ⟨role, hrole, account, hname, hlast, rfl⟩
    refine ⟨name, binding, hbinding, by rwa [hspec], name, object, by rw [hspec], hobject, ?_⟩
    rw [hrules, Grant.permits_accessRules]
    exact ⟨hservice, assertion, mem_assertionsFor.2 ⟨⟨policy, hpolicy, hmem⟩, h.forRole⟩,
      (pathIn_iff.1 h.path).symm, h.allows, h.method.symm⟩

end Healed

namespace Pass

/-- After one pass over stores that keep their contract, the stored objects grant exactly what the
authority grants, if no domain lists a role twice. -/
theorem run_grants {ω₁ ω₂ : Type} {rules : Store ServiceRole ω₁} {bindings : Store RoleBinding ω₂}
    (rulesContract : rules.Contract) (bindingsContract : bindings.Contract) (lookup : Lookup)
    (namespaces : SortedSet String) (dnsSuffix : String) {world : ω₁ × ω₂}
    (hr : rulesContract.Sound world.1) (hb : bindingsContract.Sound world.2)
    (hroles : NoRoleTwice (answersOf lookup) namespaces.keys) :
    ∃ report after,
      (ofStores (answersOf lookup) namespaces dnsSuffix rules bindings).run world = (report, after) ∧
      (∃ tally, report.result = .ok tally) ∧
      ∀ ns ∈ namespaces.keys, ∀ domain, lookup (domainOfNamespace ns) = .ok domain →
        ∀ access, Readable ns (rulesContract.contents after.1) (bindingsContract.contents after.2)
          access ↔ Granted dnsSuffix ns domain access := by
  obtain ⟨report, after, hrun, hresult, hsettled⟩ :=
    run_settles (answersOf lookup) namespaces dnsSuffix rulesContract bindingsContract hr hb hroles
  exact ⟨report, after, hrun, hresult, fun _ hns _ hlookup access =>
    readable_iff_granted hsettled.healed_rules hsettled.healed_bindings hns hlookup access⟩

def Shop.access : Access := ⟨"people/sa/alice", "reader.shop.mesh", some "/items", "GET"⟩

theorem Shop.granted : Granted "mesh" "shop" domain access := by
  refine ⟨_, List.mem_cons_self, _, List.mem_cons_self, _, List.mem_cons_self, _,
    List.mem_cons_self, ⟨"reader", "reader", ⟨by decide, by decide, fun rest h => ?_⟩,
      ⟨by decide, .inl rfl⟩, by decide⟩, ⟨"people", "alice", by decide⟩, rfl, rfl,
    .found (show "shop:/items" = "shop" ++ ":" ++ "/items" from rfl) (by decide) (by decide),
    by decide⟩
  have hend := getLast?_eq_dot_iff.2 ⟨rest, h⟩
  exact absurd hend (by decide)

theorem run_grants_shop : ∃ report after,
    (ofStores (answersOf Shop.lookup) Shop.namespaces "mesh" Disturbed.store Disturbed.store).run
      Shop.world = (report, after) ∧
    (∃ tally, report.result = .ok tally) ∧
    Readable "shop" after.1.memory.get? after.2.memory.get? Shop.access := by
  obtain ⟨report, after, hrun, hresult, hagree⟩ :=
    run_grants Disturbed.contract Disturbed.contract Shop.lookup Shop.namespaces "mesh"
      Shop.sound_rules Shop.sound_bindings Shop.noRoleTwice
  exact ⟨report, after, hrun, hresult,
    (hagree "shop" (by decide) Shop.domain rfl Shop.access).2 Shop.granted⟩

end Pass

end MeshPolicy
