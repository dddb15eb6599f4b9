import MeshPolicy.Pass.Run
import MeshPolicy.Proofs.Naming.ServiceRoles
import Mathlib.Data.List.Nodup

/-! # What a pass wants

Every service role of an indexed namespace wants one object of access rules, and a binding if it has
members that can be bound; nothing else is wanted.

* `BuildsRules`, `BuildsBinding`: the objects that a domain builds for a namespace.
* `wantedByRole_cases`: what one role asks for, in every case.
* `mem_rulesWants`, `mem_bindingWants`: what is wanted is what is built.
* `nodup_rulesWants`, `nodup_bindingWants`: no identity is wanted twice, unless a domain lists a
  role twice.
-/

namespace MeshPolicy
set_option autoImplicit false

open Naming

/-! ## What a domain builds -/

/-- The access rules built for a service role of the domain, in a namespace. -/
def BuildsRules (dnsSuffix ns : String) (domain : Domain) (desired : Object ServiceRole) : Prop :=
  ∃ role ∈ domain.roles, ∃ name, IsServiceRole ns role.name name ∧
    Grant.rules ns dnsSuffix ("service.role." ++ name) (domain.assertionsFor role.name) = .ok desired

/-- The binding built for a service role of the domain, in a namespace. -/
def BuildsBinding (ns : String) (domain : Domain) (desired : Object RoleBinding) : Prop :=
  ∃ role ∈ domain.roles, ∃ name, IsServiceRole ns role.name name ∧
    Grant.binding? ns name role.members = some desired

/-- No domain that is looked up lists two roles of one name. -/
def NoRoleTwice (answers : Pass.Answers) (namespaces : List String) : Prop :=
  ∀ ns ∈ namespaces, ∀ domain, answers ns = .ok domain →
    (domain.roles.map Role.name).Nodup

/-- The roles, namespace by namespace, whose names are malformed. -/
def malformedRoles (answers : Pass.Answers) (namespaces : List String) : List Role :=
  namespaces.flatMap fun ns =>
    match answers ns with
    | .ok domain => domain.roles.filter fun role => IsMalformed ns role.name
    | .error _ => []

namespace Grant

theorem rules_of_isServiceRole {ns role name account : String} (h : IsServiceRole ns role name)
    (hlast : LastSegment name account) (dnsSuffix : String) (assertions : List Assertion) :
    rules ns dnsSuffix ("service.role." ++ name) assertions =
      .ok (.inNamespace ns name
        (accessRules (serviceIdentifier account ns dnsSuffix) assertions)) := by
  unfold rules
  rw [serviceRoleName?_eq_some_iff.2 ⟨rfl, h.nonempty⟩, h.serviceAccount_eq_ok_iff.2 hlast]

theorem rules_dot_at_end (ns dnsSuffix rest : String) (assertions : List Assertion) :
    ∃ error, rules ns dnsSuffix ("service.role." ++ (rest ++ ".")) assertions = .error error := by
  unfold rules
  rw [← String.append_assoc, serviceAccount_dot_at_end]
  split
  · exact ⟨_, rfl⟩
  · exact ⟨_, rfl⟩

theorem id?_rules {ns dnsSuffix name : String} {assertions : List Assertion}
    {desired : Object ServiceRole}
    (h : rules ns dnsSuffix ("service.role." ++ name) assertions = .ok desired) :
    desired.id? = some ⟨ns, name⟩ := by
  unfold rules at h
  split at h
  · cases h
  · next _ hname =>
    obtain ⟨hjoin, _⟩ := serviceRoleName?_eq_some_iff.1 hname
    obtain rfl := (String.append_right_inj _).1 hjoin
    split at h
    · cases h
    · cases h
      rfl

theorem id?_binding {ns name : String} {members : List String} {desired : Object RoleBinding}
    (h : binding? ns name members = some desired) : desired.id? = some ⟨ns, name⟩ := by
  unfold binding? at h
  split at h
  · cases h
  · cases h
    rfl

end Grant

theorem BuildsRules.ns_eq {dnsSuffix ns : String} {domain : Domain} {desired : Object ServiceRole}
    {id : ObjectId} (h : BuildsRules dnsSuffix ns domain desired) (hid : desired.id? = some id) :
    id.ns = ns := by
  obtain ⟨role, _, name, _, hbuilds⟩ := h
  cases hid.symm.trans (Grant.id?_rules hbuilds)
  rfl

theorem BuildsBinding.ns_eq {ns : String} {domain : Domain} {desired : Object RoleBinding}
    {id : ObjectId} (h : BuildsBinding ns domain desired) (hid : desired.id? = some id) :
    id.ns = ns := by
  obtain ⟨role, _, name, _, hbuilds⟩ := h
  cases hid.symm.trans (Grant.id?_binding hbuilds)
  rfl

namespace Pass

/-! ## What one role wants -/

def Wanted.rules? : Wanted → Option (ObjectId × Object ServiceRole)
  | .rules id desired => some (id, desired)
  | _ => none

def Wanted.binding? : Wanted → Option (ObjectId × Object RoleBinding)
  | .binding id desired => some (id, desired)
  | _ => none

def Wanted.isMalformed : Wanted → Bool
  | .malformed _ => true
  | _ => false

theorem rulesId?_eq_map (want : Wanted) : want.rulesId? = want.rules?.map Prod.fst := by
  cases want <;> rfl

theorem bindingId?_eq_map (want : Wanted) : want.bindingId? = want.binding?.map Prod.fst := by
  cases want <;> rfl

theorem map_fst_rules (wants : List Wanted) :
    (wants.filterMap Wanted.rules?).map Prod.fst = wants.filterMap Wanted.rulesId? := by
  rw [List.map_filterMap]
  exact congrArg (fun f => List.filterMap f _) (funext fun want => (rulesId?_eq_map want).symm)

theorem map_fst_bindings (wants : List Wanted) :
    (wants.filterMap Wanted.binding?).map Prod.fst = wants.filterMap Wanted.bindingId? := by
  rw [List.map_filterMap]
  exact congrArg (fun f => List.filterMap f _) (funext fun want => (bindingId?_eq_map want).symm)

/-- What a role can ask for in a namespace. -/
inductive Asks (dnsSuffix ns : String) (domain : Domain) (role : Role) : List Wanted → Prop where
  | serviceRole {name : String} {desired : Object ServiceRole} {events skipped : List Log.Event}
      (isServiceRole : IsServiceRole ns role.name name)
      (builds : Grant.rules ns dnsSuffix ("service.role." ++ name)
        (domain.assertionsFor role.name) = .ok desired)
      (id : desired.id? = some ⟨ns, name⟩) :
      Asks dnsSuffix ns domain role
        (events.map .note ++ .rules ⟨ns, name⟩ desired :: (skipped.map .note ++
          (Grant.binding? ns name role.members).toList.map (.binding ⟨ns, name⟩)))
  | malformed {event : Log.Event} (isMalformed : IsMalformed ns role.name) :
      Asks dnsSuffix ns domain role [.malformed event]
  | other {event : Log.Event} (notServiceRole : ∀ name, ¬ IsServiceRole ns role.name name)
      (notMalformed : ¬ IsMalformed ns role.name) : Asks dnsSuffix ns domain role [.note event]

theorem cuts_iff {ns role name : String} :
    (∃ simple, simpleRoleName? (domainOfNamespace ns) role = some simple ∧
      serviceRoleName? simple = some name) ↔
    role = domainOfNamespace ns ++ ":role.service.role." ++ name ∧ name ≠ "" := by
  have hjoin : ":role.service.role." = ":role." ++ "service.role." := rfl
  simp only [simpleRoleName?_eq_some_iff, serviceRoleName?_eq_some_iff, hjoin, String.append_assoc]
  constructor
  · intro h
    obtain ⟨_, rfl, rfl, hne⟩ := h
    exact ⟨rfl, hne⟩
  · intro h
    obtain ⟨rfl, hne⟩ := h
    exact ⟨_, rfl, rfl, hne⟩

theorem wantedByMembers_eq (ns name : String) (members : List String) :
    ∃ skipped : List Log.Event, wantedByMembers ns name members =
      skipped.map .note ++ (Grant.binding? ns name members).toList.map (.binding ⟨ns, name⟩) := by
  unfold wantedByMembers
  split
  next hempty =>
    rw [List.isEmpty_iff.1 hempty]
    exact ⟨[_], rfl⟩
  next => exact ⟨_, rfl⟩

theorem wantedByServiceRole_asks {ns name simple : String} {role : Role} (dnsSuffix : String)
    (domain : Domain)
    (hfull : role.name = domainOfNamespace ns ++ ":role.service.role." ++ name)
    (hsimple : simple = "service.role." ++ name) (hne : name ≠ "") :
    Asks dnsSuffix ns domain role
      (wantedByServiceRole dnsSuffix ns domain role simple name) := by
  subst hsimple
  unfold wantedByServiceRole
  by_cases hdot : ∃ rest, name = rest ++ "."
  · obtain ⟨rest, rfl⟩ := hdot
    obtain ⟨error, herror⟩ :=
      Grant.rules_dot_at_end ns dnsSuffix rest (domain.assertionsFor role.name)
    simp only [herror]
    exact .malformed ⟨rest, by rw [hfull, ← String.append_assoc]⟩
  · have h : IsServiceRole ns role.name name := ⟨hfull, hne, fun rest hrest => hdot ⟨rest, hrest⟩⟩
    obtain ⟨account, hlast⟩ := exists_lastSegment name
    have hrules := Grant.rules_of_isServiceRole h hlast dnsSuffix (domain.assertionsFor role.name)
    obtain ⟨skipped, hmembers⟩ := wantedByMembers_eq ns name role.members
    simp only [hrules, hmembers]
    exact .serviceRole h hrules rfl

/-- A service role asks for its rules and perhaps a binding, a malformed one for a report of that,
and any other role for nothing. -/
theorem wantedByRole_cases (dnsSuffix ns : String) (domain : Domain) (role : Role) :
    Asks dnsSuffix ns domain role (wantedByRole dnsSuffix ns domain role) := by
  have hother (hcuts : ∀ simple name,
      simpleRoleName? (domainOfNamespace ns) role.name = some simple →
        serviceRoleName? simple ≠ some name) (event : Log.Event) :
      Asks dnsSuffix ns domain role [.note event] := by
    refine .other (fun name h => ?_) ?_
    · obtain ⟨simple, hsimple, hname⟩ := cuts_iff.2 ⟨h.fullName, h.nonempty⟩
      exact hcuts _ _ hsimple hname
    · intro h'
      obtain ⟨rest, hrest⟩ := h'
      rw [String.append_assoc] at hrest
      obtain ⟨simple, hsimple, hname⟩ := cuts_iff.2 ⟨hrest, by simp⟩
      exact hcuts _ _ hsimple hname
  unfold wantedByRole
  split
  next hnone => exact hother (by simp [hnone]) _
  next simple hsimple =>
    split
    next hnone =>
      refine hother (fun simple' name hsimple' => ?_) _
      cases hsimple.symm.trans hsimple'
      simp [hnone]
    next name hname =>
      obtain ⟨hfull, hne⟩ := cuts_iff.1 ⟨simple, hsimple, hname⟩
      exact wantedByServiceRole_asks dnsSuffix domain hfull
        (serviceRoleName?_eq_some_iff.1 hname).1 hne

/-- The identities are different ones, all of the service role that the role is. -/
def OnlyOf (ns role : String) (ids : List ObjectId) : Prop :=
  ids.Nodup ∧ ∀ id ∈ ids, id.ns = ns ∧ IsServiceRole ns role id.name

namespace Asks

variable {dnsSuffix ns : String} {domain : Domain} {role : Role} {wants : List Wanted}

theorem rules_mem (h : Asks dnsSuffix ns domain role wants) {id : ObjectId}
    {desired : Object ServiceRole} :
    .rules id desired ∈ wants ↔ ∃ name, IsServiceRole ns role.name name ∧
      Grant.rules ns dnsSuffix ("service.role." ++ name) (domain.assertionsFor role.name) =
        .ok desired ∧ desired.id? = some id := by
  cases h with
  | serviceRole h hbuilds hid =>
    constructor
    · intro hmem
      simp at hmem
      obtain ⟨rfl, rfl⟩ := hmem
      exact ⟨_, h, hbuilds, hid⟩
    · intro h'
      obtain ⟨name, hname, hbuilds', hid'⟩ := h'
      cases h.name_unique hname
      cases hbuilds.symm.trans hbuilds'
      cases hid.symm.trans hid'
      simp
  | malformed hmalformed =>
    refine iff_of_false (by simp) ?_
    intro h'
    obtain ⟨name, hname, _⟩ := h'
    exact hname.not_isMalformed hmalformed
  | other hother =>
    refine iff_of_false (by simp) ?_
    intro h'
    obtain ⟨name, hname, _⟩ := h'
    exact hother name hname

theorem binding_mem (h : Asks dnsSuffix ns domain role wants) {id : ObjectId}
    {desired : Object RoleBinding} :
    .binding id desired ∈ wants ↔ ∃ name, IsServiceRole ns role.name name ∧
      Grant.binding? ns name role.members = some desired ∧ desired.id? = some id := by
  cases h with
  | serviceRole h hbuilds hid =>
    constructor
    · intro hmem
      simp at hmem
      obtain ⟨hdesired, rfl⟩ := hmem
      exact ⟨_, h, hdesired, Grant.id?_binding hdesired⟩
    · intro h'
      obtain ⟨name, hname, hdesired, hid'⟩ := h'
      cases h.name_unique hname
      cases (Grant.id?_binding hdesired).symm.trans hid'
      simp [hdesired]
  | malformed hmalformed =>
    refine iff_of_false (by simp) ?_
    intro h'
    obtain ⟨name, hname, _⟩ := h'
    exact hname.not_isMalformed hmalformed
  | other hother =>
    refine iff_of_false (by simp) ?_
    intro h'
    obtain ⟨name, hname, _⟩ := h'
    exact hother name hname

theorem countP_malformed (h : Asks dnsSuffix ns domain role wants) :
    wants.countP Wanted.isMalformed = if IsMalformed ns role.name then 1 else 0 := by
  cases h with
  | serviceRole h =>
    rw [if_neg h.not_isMalformed]
    simp [Wanted.isMalformed, Function.comp_def]
  | malformed h => simp [h, Wanted.isMalformed]
  | other _ h => simp [h, Wanted.isMalformed]

theorem rulesIds_onlyOf (h : Asks dnsSuffix ns domain role wants) :
    OnlyOf ns role.name (wants.filterMap Wanted.rulesId?) := by
  cases h with
  | serviceRole h => simp [OnlyOf, Wanted.rulesId?, List.filterMap_map, Function.comp_def, h]
  | malformed => simp [OnlyOf, Wanted.rulesId?, List.filterMap_cons]
  | other => simp [OnlyOf, Wanted.rulesId?, List.filterMap_cons]

theorem bindingIds_onlyOf (h : Asks dnsSuffix ns domain role wants) :
    OnlyOf ns role.name (wants.filterMap Wanted.bindingId?) := by
  cases h with
  | @serviceRole name _ _ _ h =>
    cases Grant.binding? ns name role.members <;>
      simp [OnlyOf, Wanted.bindingId?, List.filterMap_cons, List.filterMap_map, Function.comp_def, h]
  | malformed => simp [OnlyOf, Wanted.bindingId?, List.filterMap_cons]
  | other => simp [OnlyOf, Wanted.bindingId?, List.filterMap_cons]

end Asks

/-! ## What all namespaces want -/

section Wants

variable {dnsSuffix : String} {answers : Answers} {namespaces : List String}

theorem wantedByNamespace_error {ns : String} {error : LookupError} (dnsSuffix : String)
    (h : answers ns = .error error) :
    ∃ event, wantedByNamespace dnsSuffix answers ns = [.unavailable event] := by
  unfold wantedByNamespace
  simp only [h]
  exact ⟨_, rfl⟩

theorem wantedByNamespace_ok {ns : String} {domain : Domain}
    (h : answers ns = .ok domain) :
    wantedByNamespace dnsSuffix answers ns =
      domain.roles.flatMap (wantedByRole dnsSuffix ns domain) := by
  unfold wantedByNamespace
  simp only [h]

/-- What is wanted is what the roles of the domains that were looked up want. -/
theorem mem_wanted {want : Wanted} (h : ∀ event, want ≠ .unavailable event) :
    want ∈ wanted dnsSuffix answers namespaces ↔ ∃ ns ∈ namespaces, ∃ domain,
      answers ns = .ok domain ∧
        ∃ role ∈ domain.roles, want ∈ wantedByRole dnsSuffix ns domain role := by
  rw [wanted, List.mem_flatMap]
  refine exists_congr fun ns => and_congr_right fun _ => ?_
  cases hanswer : answers ns with
  | error error =>
    obtain ⟨event, hevent⟩ := wantedByNamespace_error dnsSuffix hanswer
    simp [hevent, h]
  | ok domain => simp [wantedByNamespace_ok hanswer]

theorem mem_rulesWants {id : ObjectId} {desired : Object ServiceRole} :
    (id, desired) ∈ (wanted dnsSuffix answers namespaces).filterMap Wanted.rules? ↔
      ∃ ns ∈ namespaces, ∃ domain, answers ns = .ok domain ∧
        BuildsRules dnsSuffix ns domain desired ∧ desired.id? = some id := by
  have hpick (want : Wanted) : want.rules? = some (id, desired) ↔ want = .rules id desired := by
    cases want <;> simp [Wanted.rules?]
  simp only [List.mem_filterMap, hpick, exists_eq_right]
  rw [mem_wanted (by simp)]
  simp only [(wantedByRole_cases dnsSuffix _ _ _).rules_mem]
  constructor
  · intro h
    obtain ⟨ns, hns, domain, hanswer, role, hrole, name, hname, hbuilds, hid⟩ := h
    exact ⟨ns, hns, domain, hanswer, ⟨role, hrole, name, hname, hbuilds⟩, hid⟩
  · intro h
    obtain ⟨ns, hns, domain, hanswer, ⟨role, hrole, name, hname, hbuilds⟩, hid⟩ := h
    exact ⟨ns, hns, domain, hanswer, role, hrole, name, hname, hbuilds, hid⟩

theorem mem_bindingWants {id : ObjectId} {desired : Object RoleBinding} :
    (id, desired) ∈ (wanted dnsSuffix answers namespaces).filterMap Wanted.binding? ↔
      ∃ ns ∈ namespaces, ∃ domain, answers ns = .ok domain ∧
        BuildsBinding ns domain desired ∧ desired.id? = some id := by
  have hpick (want : Wanted) : want.binding? = some (id, desired) ↔ want = .binding id desired := by
    cases want <;> simp [Wanted.binding?]
  simp only [List.mem_filterMap, hpick, exists_eq_right]
  rw [mem_wanted (by simp)]
  simp only [(wantedByRole_cases dnsSuffix _ _ _).binding_mem]
  constructor
  · intro h
    obtain ⟨ns, hns, domain, hanswer, role, hrole, name, hname, hbuilds, hid⟩ := h
    exact ⟨ns, hns, domain, hanswer, ⟨role, hrole, name, hname, hbuilds⟩, hid⟩
  · intro h
    obtain ⟨ns, hns, domain, hanswer, ⟨role, hrole, name, hname, hbuilds⟩, hid⟩ := h
    exact ⟨ns, hns, domain, hanswer, role, hrole, name, hname, hbuilds, hid⟩

/-- Access rules are wanted under their own identity, in a namespace whose look-up succeeds. -/
theorem answered_rulesWants :
    ∀ want ∈ (wanted dnsSuffix answers namespaces).filterMap Wanted.rules?,
      want.2.id? = some want.1 ∧ ∃ domain, answers want.1.ns = .ok domain := by
  intro want hwant
  obtain ⟨ns, _, domain, hanswer, hbuilds, hid⟩ := mem_rulesWants.1 hwant
  rw [← hbuilds.ns_eq hid] at hanswer
  exact ⟨hid, domain, hanswer⟩

theorem answered_bindingWants :
    ∀ want ∈ (wanted dnsSuffix answers namespaces).filterMap Wanted.binding?,
      want.2.id? = some want.1 ∧ ∃ domain, answers want.1.ns = .ok domain := by
  intro want hwant
  obtain ⟨ns, _, domain, hanswer, hbuilds, hid⟩ := mem_bindingWants.1 hwant
  rw [← hbuilds.ns_eq hid] at hanswer
  exact ⟨hid, domain, hanswer⟩

/-- Roles of different names want different identities, and so do different namespaces. -/
theorem nodup_picked {pick : Wanted → Option ObjectId}
    (hunavailable : ∀ e, pick (.unavailable e) = none)
    (hrole : ∀ ns domain role, OnlyOf ns role.name
      ((wantedByRole dnsSuffix ns domain role).filterMap pick))
    (hn : namespaces.Nodup) (hr : NoRoleTwice answers namespaces) :
    ((wanted dnsSuffix answers namespaces).filterMap pick).Nodup := by
  have hns : ∀ ns, ∀ id ∈ (wantedByNamespace dnsSuffix answers ns).filterMap pick, id.ns = ns := by
    intro ns id hid
    cases hanswer : answers ns with
    | error =>
      obtain ⟨event, hevent⟩ := wantedByNamespace_error dnsSuffix hanswer
      simp [hevent, hunavailable] at hid
    | ok domain =>
      rw [wantedByNamespace_ok hanswer, List.filterMap_flatMap, List.mem_flatMap] at hid
      obtain ⟨role, _, hid⟩ := hid
      exact ((hrole ns domain role).2 id hid).1
  -- Inside a namespace the names of the roles tell identities apart, and the namespaces do otherwise.
  rw [wanted, List.filterMap_flatMap, List.nodup_flatMap]
  refine ⟨fun ns hmem => ?_, hn.imp fun {a b} hab id ha hb => ?_⟩
  · cases hanswer : answers ns with
    | error =>
      obtain ⟨event, hevent⟩ := wantedByNamespace_error dnsSuffix hanswer
      simp [hevent, hunavailable]
    | ok domain =>
      rw [wantedByNamespace_ok hanswer, List.filterMap_flatMap, List.nodup_flatMap]
      refine ⟨fun role _ => (hrole ns domain role).1, ?_⟩
      refine (List.pairwise_map.1 (hr ns hmem domain hanswer)).imp fun {a b} hab id ha hb => hab ?_
      rw [((hrole ns domain a).2 id ha).2.fullName, ((hrole ns domain b).2 id hb).2.fullName]
  · exact hab ((hns a id ha).symm.trans (hns b id hb))

theorem nodup_rulesWants (dnsSuffix : String) (hn : namespaces.Nodup)
    (hr : NoRoleTwice answers namespaces) :
    (((wanted dnsSuffix answers namespaces).filterMap Wanted.rules?).map Prod.fst).Nodup := by
  rw [map_fst_rules]
  exact nodup_picked (fun _ => rfl) (fun ns domain role =>
    (wantedByRole_cases dnsSuffix ns domain role).rulesIds_onlyOf) hn hr

theorem nodup_bindingWants (dnsSuffix : String) (hn : namespaces.Nodup)
    (hr : NoRoleTwice answers namespaces) :
    (((wanted dnsSuffix answers namespaces).filterMap Wanted.binding?).map Prod.fst).Nodup := by
  rw [map_fst_bindings]
  exact nodup_picked (fun _ => rfl) (fun ns domain role =>
    (wantedByRole_cases dnsSuffix ns domain role).bindingIds_onlyOf) hn hr

theorem countP_malformed_roles (ns : String) (domain : Domain) (roles : List Role) :
    (roles.flatMap (wantedByRole dnsSuffix ns domain)).countP Wanted.isMalformed =
      (roles.filter fun role => IsMalformed ns role.name).length := by
  induction roles with
  | nil => rfl
  | cons role rest ih =>
    rw [List.flatMap_cons, List.countP_append, ih, List.filter_cons,
      (wantedByRole_cases dnsSuffix ns domain role).countP_malformed]
    by_cases h : IsMalformed ns role.name
    · simp only [h, decide_true, if_true, List.length_cons]
      omega
    · simp only [h, decide_false, Bool.false_eq_true, if_false, Nat.zero_add]

/-- What is malformed is met once for each malformed role. -/
theorem countP_malformed_wanted :
    (wanted dnsSuffix answers namespaces).countP Wanted.isMalformed =
      (malformedRoles answers namespaces).length := by
  rw [wanted, malformedRoles, List.countP_flatMap, List.length_flatMap]
  congr 1
  refine List.map_congr_left fun ns _ => ?_
  cases hanswer : answers ns with
  | error =>
    obtain ⟨event, hevent⟩ := wantedByNamespace_error dnsSuffix hanswer
    simp [hevent, Wanted.isMalformed]
  | ok domain =>
    rw [Function.comp_apply, wantedByNamespace_ok hanswer, countP_malformed_roles]

end Wants

end Pass

end MeshPolicy
