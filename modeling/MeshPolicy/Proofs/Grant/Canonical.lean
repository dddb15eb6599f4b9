import MeshPolicy.Proofs.Grant.Access
import Mathlib.Data.List.Sort
import Mathlib.Data.Multiset.Basic
import Mathlib.Data.String.Basic

/-! # Access rules as a canonical form of grants

The rules of a service role are its grants, written in one way.

* `Grant.grants`: what allowing assertions grant, one pair of a path and a method for each.
* `ServiceRole.permissions`: the pairs that rules permit.
* `ServiceRole.IsCanonical`: one rule for each path, in order, with its methods in order.
* `ServiceRole.IsCanonical.eq_of_permissions`: canonical rules are told apart by what they permit.
* `permitted_perm`: no assertion is lost, none is invented, by induction over the assertions.
* `rules_keep_grants`: when rules are built, and what they are.
-/

namespace MeshPolicy
set_option autoImplicit false

open Naming

/-! ## Canonical rules -/

/-- The path that a rule names, if it names one. -/
def AccessRule.path? (rule : AccessRule) : Option String := rule.paths.head?

/-- The methods of the rule, each on the path of the rule. -/
def AccessRule.permissions (rule : AccessRule) : List (Option String × String) :=
  rule.methods.map (rule.path?, ·)

/-- What the rules permit, each pair as often as they list it. -/
def ServiceRole.permissions (spec : ServiceRole) : Multiset (Option String × String) :=
  ↑(spec.rules.flatMap AccessRule.permissions)

/-- The rule names one service, at most one path, and methods in order. -/
structure AccessRule.IsCanonical (service : String) (rule : AccessRule) : Prop where
  service : rule.services = [service]
  path : rule.paths.length ≤ 1
  granting : rule.methods ≠ []
  ordered : rule.methods.Pairwise (· ≤ ·)

/-- All rules are canonical and their paths ascend. A missing path is less than any other. -/
structure ServiceRole.IsCanonical (service : String) (spec : ServiceRole) : Prop where
  rules : ∀ rule ∈ spec.rules, rule.IsCanonical service
  ascending : (spec.rules.map AccessRule.path?).Pairwise (· < ·)

theorem AccessRule.IsCanonical.paths_eq {service : String} {rule : AccessRule}
    (h : rule.IsCanonical service) : rule.paths = rule.path?.toList := by
  have hpath := h.path
  unfold AccessRule.path?
  cases hpaths : rule.paths with
  | nil => rfl
  | cons path rest =>
    rw [hpaths, List.length_cons] at hpath
    have hrest : rest = [] := List.length_eq_zero_iff.1 (by omega)
    rw [hrest]
    rfl

theorem AccessRule.IsCanonical.eq_of_perm {service : String} {rule rule' : AccessRule}
    (h : rule.IsCanonical service) (h' : rule'.IsCanonical service)
    (hpath : rule.path? = rule'.path?) (hmethods : rule.methods.Perm rule'.methods) :
    rule = rule' := by
  have hservices : rule.services = rule'.services := h.service.trans h'.service.symm
  have hpaths : rule.paths = rule'.paths := by rw [h.paths_eq, h'.paths_eq, hpath]
  have hsame : rule.methods = rule'.methods := hmethods.eq_of_pairwise' h.ordered h'.ordered
  cases rule
  cases rule'
  cases hservices
  cases hpaths
  cases hsame
  rfl

/-- Rules for different paths follow one another in one order only. -/
instance asymm_path? : Std.Asymm fun rule rule' : AccessRule => rule.path? < rule'.path? where
  asymm rule rule' hlt hgt := by
    cases hpath : rule.path? with
    | none => simp [hpath] at hgt
    | some path =>
      cases hpath' : rule'.path? with
      | none => simp [hpath'] at hlt
      | some path' =>
        rw [hpath, hpath', Option.some_lt_some] at hlt hgt
        exact lt_asymm hlt hgt

theorem AccessRule.mem_permissions {rule : AccessRule} {path : Option String} {method : String} :
    (path, method) ∈ rule.permissions ↔ rule.path? = path ∧ method ∈ rule.methods := by
  simp [AccessRule.permissions, and_comm]

theorem AccessRule.map_permissions (rule : AccessRule) :
    rule.permissions.map Prod.snd = rule.methods := by
  rw [AccessRule.permissions, List.map_map]
  exact List.map_id _

namespace ServiceRole

theorem mem_permissions {spec : ServiceRole} {path : Option String} {method : String} :
    (path, method) ∈ spec.permissions ↔
      ∃ rule ∈ spec.rules, rule.path? = path ∧ method ∈ rule.methods := by
  simp only [permissions, Multiset.mem_coe, List.mem_flatMap, AccessRule.mem_permissions]

/-- What a rule permits is all that is permitted on its path. -/
theorem filter_permissions {rules : List AccessRule} {rule : AccessRule}
    (h : rules.Pairwise fun rule rule' => rule.path? ≠ rule'.path?) (hrule : rule ∈ rules) :
    ((rules.flatMap AccessRule.permissions).filter fun pair => pair.1 = rule.path?) =
      rule.permissions := by
  have hown : (rule.permissions.filter fun pair => pair.1 = rule.path?) = rule.permissions :=
    List.filter_eq_self.2 fun pair hpair => by
      simpa using (AccessRule.mem_permissions.1 hpair).1.symm
  have hother {other : AccessRule} (hne : other.path? ≠ rule.path?) :
      (other.permissions.filter fun pair => pair.1 = rule.path?) = [] :=
    List.filter_eq_nil_iff.2 fun pair hpair => by
      simpa [(AccessRule.mem_permissions.1 hpair).1] using hne
  induction rules with
  | nil => cases hrule
  | cons first rest ih =>
    obtain ⟨hfirst, hrest⟩ := List.pairwise_cons.1 h
    rw [List.flatMap_cons, List.filter_append]
    rcases List.mem_cons.1 hrule with rfl | hmem
    · have hnone : ((rest.flatMap AccessRule.permissions).filter fun pair =>
          pair.1 = rule.path?) = [] := by
        rw [List.filter_flatMap, List.flatMap_eq_nil_iff]
        exact fun other hmem => hother (hfirst other hmem).symm
      rw [hown, hnone, List.append_nil]
    · rw [hother (hfirst rule hmem), ih hrest hmem, List.nil_append]

namespace IsCanonical

variable {service : String} {spec spec' : ServiceRole}

theorem rules_ascending (h : spec.IsCanonical service) :
    spec.rules.Pairwise fun rule rule' => rule.path? < rule'.path? :=
  List.pairwise_map.1 h.ascending

theorem rules_distinct (h : spec.IsCanonical service) :
    spec.rules.Pairwise fun rule rule' => rule.path? ≠ rule'.path? :=
  h.rules_ascending.imp fun {rule rule'} hlt heq => by
    rw [heq] at hlt
    exact Std.Irrefl.irrefl (r := fun rule rule' : AccessRule => rule.path? < rule'.path?) rule' hlt

/-- A rule of one list is in any other that permits the same. -/
theorem mem_of_permissions (h : spec.IsCanonical service) (h' : spec'.IsCanonical service)
    (heq : spec.permissions = spec'.permissions) {rule : AccessRule} (hrule : rule ∈ spec.rules) :
    rule ∈ spec'.rules := by
  have hcanonical := h.rules rule hrule
  obtain ⟨method, hmethod⟩ := List.exists_mem_of_ne_nil _ hcanonical.granting
  have hpermits : (rule.path?, method) ∈ spec'.permissions :=
    heq ▸ mem_permissions.2 ⟨rule, hrule, rfl, hmethod⟩
  obtain ⟨rule', hrule', hpath, _⟩ := mem_permissions.1 hpermits
  have hperm : (spec.rules.flatMap AccessRule.permissions).Perm
      (spec'.rules.flatMap AccessRule.permissions) := Multiset.coe_eq_coe.1 heq
  have hmethods : rule.methods.Perm rule'.methods := by
    have hown := (hperm.filter fun pair => pair.1 = rule.path?).map Prod.snd
    rwa [filter_permissions h.rules_distinct hrule, ← hpath,
      filter_permissions h'.rules_distinct hrule', AccessRule.map_permissions,
      AccessRule.map_permissions] at hown
  rw [hcanonical.eq_of_perm (h'.rules rule' hrule') hpath.symm hmethods]
  exact hrule'

/-- Canonical rules for one service are equal if they permit the same. -/
theorem eq_of_permissions (h : spec.IsCanonical service) (h' : spec'.IsCanonical service)
    (heq : spec.permissions = spec'.permissions) : spec = spec' := by
  have hrules : spec.rules = spec'.rules :=
    h.rules_ascending.eq_of_mem_iff h'.rules_ascending fun _ =>
      ⟨fun hrule => h.mem_of_permissions h' heq hrule,
        fun hrule => h'.mem_of_permissions h heq.symm hrule⟩
  cases spec
  cases spec'
  cases hrules
  rfl

end IsCanonical

end ServiceRole

/-! ## What assertions grant -/

/-- What an allowing assertion grants: a method on a path. -/
def Assertion.grant (assertion : Assertion) : Option String × String :=
  (assertion.path, Text.uppercase assertion.action)

namespace Grant

/-- What the allowing assertions grant, each pair as often as it is granted. -/
def grants (assertions : List Assertion) : Multiset (Option String × String) :=
  ↑((allowing assertions).map Assertion.grant)

/-- The methods on each of the paths, in the order in which rules list them. -/
def permitted (paths : List (Option String)) (assertions : List Assertion) :
    List (Option String × String) :=
  paths.flatMap fun path => (methodsOn assertions path).map (path, ·)

theorem allowing_cons_allow {assertion : Assertion} (h : assertion.effect = .allow)
    (rest : List Assertion) : allowing (assertion :: rest) = assertion :: allowing rest := by
  simp [allowing, h]

theorem allowing_cons_other {assertion : Assertion} (h : assertion.effect ≠ .allow)
    (rest : List Assertion) : allowing (assertion :: rest) = allowing rest := by
  simp [allowing, h]

theorem methodsOn_cons_same {assertion : Assertion} (h : assertion.effect = .allow)
    (rest : List Assertion) :
    methodsOn (assertion :: rest) assertion.path =
      insertInOrder (Text.uppercase assertion.action) (methodsOn rest assertion.path) := by
  rw [methodsOn, allowing_cons_allow h, List.filter_cons_of_pos (by simp), List.map_cons]
  rfl

theorem methodsOn_cons_other {assertion : Assertion} {path : Option String}
    (h : assertion.effect ≠ .allow ∨ assertion.path ≠ path) (rest : List Assertion) :
    methodsOn (assertion :: rest) path = methodsOn rest path := by
  by_cases hallow : assertion.effect = .allow
  · have hpath : assertion.path ≠ path := h.resolve_left fun hne => hne hallow
    rw [methodsOn, allowing_cons_allow hallow, List.filter_cons_of_neg (by simpa using hpath)]
    rfl
  · rw [methodsOn, allowing_cons_other hallow]
    rfl

theorem permitted_cons_other {assertion : Assertion} {paths : List (Option String)}
    (h : assertion.effect ≠ .allow ∨ assertion.path ∉ paths) (rest : List Assertion) :
    permitted paths (assertion :: rest) = permitted paths rest := by
  unfold permitted
  refine List.flatMap_congr fun path hpath => ?_
  rw [methodsOn_cons_other (h.imp_right fun hnot heq => hnot (heq ▸ hpath))]

/-- One more allowing assertion adds what it grants, on its own path and nowhere else. -/
theorem permitted_cons_allow {assertion : Assertion} {paths : List (Option String)}
    (hallow : assertion.effect = .allow) (hn : paths.Nodup) (hpath : assertion.path ∈ paths)
    (rest : List Assertion) :
    (permitted paths (assertion :: rest)).Perm (assertion.grant :: permitted paths rest) := by
  obtain ⟨before, after, rfl⟩ := List.append_of_mem hpath
  obtain ⟨_, htail, hdisjoint⟩ := List.nodup_append.1 hn
  have hbefore : assertion.path ∉ before := fun hmem =>
    hdisjoint _ hmem _ List.mem_cons_self rfl
  have hafter : assertion.path ∉ after := (List.nodup_cons.1 htail).1
  have hsplit (assertions : List Assertion) :
      permitted (before ++ assertion.path :: after) assertions = permitted before assertions ++
        ((methodsOn assertions assertion.path).map (assertion.path, ·) ++
          permitted after assertions) := by
    simp [permitted]
  have hinsert := (insertInOrder_perm (Text.uppercase assertion.action)
    (methodsOn rest assertion.path)).map (assertion.path, ·)
  rw [hsplit, hsplit, permitted_cons_other (.inr hbefore), permitted_cons_other (.inr hafter),
    methodsOn_cons_same hallow]
  exact ((hinsert.append_right _).append_left _).trans List.perm_middle

/-- Rules for all paths of the allowing assertions permit what these grant, and as often. -/
theorem permitted_perm {paths : List (Option String)} {assertions : List Assertion}
    (hn : paths.Nodup) (h : ∀ a ∈ allowing assertions, a.path ∈ paths) :
    (permitted paths assertions).Perm ((allowing assertions).map Assertion.grant) := by
  induction assertions with
  | nil => simp [permitted, methodsOn, allowing, sortInOrder]
  | cons assertion rest ih =>
    by_cases hallow : assertion.effect = .allow
    · rw [allowing_cons_allow hallow] at h ⊢
      have hrest := ih fun a ha => h a (List.mem_cons_of_mem _ ha)
      exact (permitted_cons_allow hallow hn (h _ List.mem_cons_self) rest).trans (hrest.cons _)
    · rw [allowing_cons_other hallow] at h ⊢
      rw [permitted_cons_other (.inl hallow)]
      exact ih h

/-! ## The rules that are built -/

theorem path?_ruleOn (service : String) (assertions : List Assertion) (path : Option String) :
    (ruleOn service assertions path).path? = path := by
  cases path <;> rfl

theorem mem_grantedPaths {assertions : List Assertion} {path : Option String} :
    path ∈ (grantedPaths assertions).keys ↔ ∃ a ∈ allowing assertions, a.path = path := by
  rw [grantedPaths, SortedMap.mem_keys_ofList, List.map_map, List.mem_map]
  rfl

theorem lt_of_compare_eq_lt {path path' : Option String} (h : compare path path' = .lt) :
    path < path' := by
  cases path with
  | none =>
    cases path' with
    | none => cases h
    | some path' => exact Option.none_lt_some
  | some path =>
    cases path' with
    | none => cases h
    | some path' => exact Option.some_lt_some.2 (compare_lt_iff_lt.1 h)

theorem methodsOn_ne_nil {assertions : List Assertion} {path : Option String}
    (h : path ∈ (grantedPaths assertions).keys) : methodsOn assertions path ≠ [] := by
  obtain ⟨a, ha, hpath⟩ := mem_grantedPaths.1 h
  have hmem : Text.uppercase a.action ∈ methodsOn assertions path :=
    (sortInOrder_perm _).mem_iff.2
      (List.mem_map_of_mem (List.mem_filter.2 ⟨ha, by simpa using hpath⟩))
  exact List.ne_nil_of_mem hmem

theorem isCanonical_ruleOn (service : String) {assertions : List Assertion}
    {path : Option String} (h : path ∈ (grantedPaths assertions).keys) :
    (ruleOn service assertions path).IsCanonical service where
  service := rfl
  path := by cases path <;> simp [ruleOn]
  granting := methodsOn_ne_nil h
  ordered := (inOrder_sortInOrder _).imp compare_le_iff_le.1

theorem isCanonical_accessRules (service : String) (assertions : List Assertion) :
    (accessRules service assertions).IsCanonical service where
  rules rule hrule := by
    obtain ⟨path, hpath, rfl⟩ := List.mem_map.1 hrule
    exact isCanonical_ruleOn service hpath
  ascending := by
    have hpaths : (accessRules service assertions).rules.map AccessRule.path? =
        (grantedPaths assertions).keys := by
      rw [accessRules, List.map_map]
      exact List.map_id'' (path?_ruleOn service assertions) _
    rw [hpaths]
    exact (grantedPaths assertions).ascending.imp lt_of_compare_eq_lt

theorem permissions_accessRules (service : String) (assertions : List Assertion) :
    (accessRules service assertions).permissions = grants assertions := by
  have hrules : (accessRules service assertions).rules.flatMap AccessRule.permissions =
      permitted (grantedPaths assertions).keys assertions := by
    rw [accessRules, List.flatMap_map]
    refine List.flatMap_congr fun path _ => ?_
    rw [AccessRule.permissions, path?_ruleOn]
    rfl
  rw [ServiceRole.permissions, hrules, grants, Multiset.coe_eq_coe]
  exact permitted_perm (SortedMap.nodup_keys _) fun a ha => mem_grantedPaths.2 ⟨a, ha, rfl⟩

/-- The role is not called `service.role.<name>`, or the name is missing or ends in a dot. -/
def IsRefused (role : String) : Prop :=
  (∀ name, role ≠ "service.role." ++ name) ∨ role = "service.role." ∨ ∃ start, role = start ++ "."

theorem rules_of_isRefused {role : String} (h : IsRefused role) (ns dnsSuffix : String)
    (assertions : List Assertion) :
    rules ns dnsSuffix role assertions = .error (.malformedRoleName role) := by
  unfold rules
  cases hname : serviceRoleName? role with
  | none => rfl
  | some name =>
    obtain ⟨hrole, hne⟩ := serviceRoleName?_eq_some_iff.1 hname
    rcases h with hother | hempty | ⟨start, hdot⟩
    · exact absurd hrole (hother name)
    · rw [hempty] at hrole
      exact absurd ((String.append_right_inj _).1 (hrole.symm.trans String.append_empty.symm)) hne
    · rw [hdot, serviceAccount_dot_at_end]

/-- The parts of a role that is not refused, and what is built for it. -/
theorem rules_of_not_isRefused {role : String} (h : ¬ IsRefused role) :
    ∃ name account, role = "service.role." ++ name ∧ LastSegment role account ∧
      ∀ ns dnsSuffix assertions, rules ns dnsSuffix role assertions =
        .ok (.inNamespace ns name
          (accessRules (serviceIdentifier account ns dnsSuffix) assertions)) := by
  simp only [IsRefused, not_or, not_forall, not_exists, not_not] at h
  obtain ⟨⟨name, rfl⟩, hnameless, hdot⟩ := h
  have hname : name ≠ "" := by
    rintro rfl
    exact hnameless rfl
  obtain ⟨account, hlast⟩ := exists_lastSegment name
  have haccount : account ≠ "" := by
    rintro rfl
    rcases hlast.2 with rfl | ⟨before, hbefore⟩
    · exact hname rfl
    · refine hdot ("service.role." ++ before) ?_
      rw [hbefore, String.append_empty, String.append_assoc]
  have hok := serviceAccount_of_lastSegment hlast haccount
  obtain ⟨_, _, before, hcut⟩ := serviceAccount_eq_ok_iff.1 hok
  refine ⟨name, account, rfl, ⟨hlast.1, .inr ⟨before, hcut⟩⟩, fun ns dnsSuffix assertions => ?_⟩
  unfold rules
  rw [serviceRoleName?_eq_some_iff.2 ⟨rfl, hname⟩, hok]

/-- Rules are built for every role that is not refused, and they grant what its assertions allow:
nothing is lost and nothing is invented. -/
theorem rules_keep_grants (ns dnsSuffix role : String) (assertions : List Assertion) :
    (rules ns dnsSuffix role assertions = .error (.malformedRoleName role) ↔ IsRefused role) ∧
    (¬ IsRefused role → ∃ name account spec,
      role = "service.role." ++ name ∧ LastSegment role account ∧
      rules ns dnsSuffix role assertions = .ok (.inNamespace ns name spec) ∧
      spec.IsCanonical (account ++ "." ++ ns ++ "." ++ dnsSuffix) ∧
      spec.permissions = grants assertions) := by
  constructor
  · refine ⟨fun herror => ?_, fun h => rules_of_isRefused h ns dnsSuffix assertions⟩
    by_contra h
    obtain ⟨_, _, _, _, hrules⟩ := rules_of_not_isRefused h
    rw [hrules] at herror
    cases herror
  · intro h
    obtain ⟨name, account, hrole, hlast, hrules⟩ := rules_of_not_isRefused h
    exact ⟨name, account, _, hrole, hlast, hrules ns dnsSuffix assertions,
      isCanonical_accessRules _ assertions, permissions_accessRules _ assertions⟩

/-- Some assertions of one role: two of them grant the same, and one is denied. -/
def Shop.assertions : List Assertion :=
  [⟨"shop:role.service.role.reader", "get", "shop:/items", .allow⟩,
    ⟨"shop:role.service.role.reader", "post", "shop", .allow⟩,
    ⟨"shop:role.service.role.reader", "delete", "shop:/items", .deny⟩,
    ⟨"shop:role.service.role.reader", "GET", "web:/items", .allow⟩]

theorem Shop.not_isRefused_reader : ¬ IsRefused "service.role.web.reader" := by
  intro h
  rcases h with hother | hempty | hdot
  · exact hother "web.reader" rfl
  · exact absurd hempty (by decide)
  · exact absurd (getLast?_eq_dot_iff.2 hdot) (by decide)

theorem Shop.grants_assertions :
    grants assertions = ↑[(some "/items", "GET"), (none, "POST"), (some "/items", "GET")] := by
  decide +kernel

theorem rules_keep_grants_reader : ¬ IsRefused "service.role.web.reader" ∧
    ∃ name account spec,
      "service.role.web.reader" = "service.role." ++ name ∧
      LastSegment "service.role.web.reader" account ∧
      rules "shop" "mesh" "service.role.web.reader" Shop.assertions =
        .ok (.inNamespace "shop" name spec) ∧
      spec.IsCanonical (account ++ "." ++ "shop" ++ "." ++ "mesh") ∧
      spec.permissions = ↑[(some "/items", "GET"), (none, "POST"), (some "/items", "GET")] := by
  have h := (rules_keep_grants "shop" "mesh" "service.role.web.reader" Shop.assertions).2
    Shop.not_isRefused_reader
  rw [Shop.grants_assertions] at h
  exact ⟨Shop.not_isRefused_reader, h⟩

end Grant

end MeshPolicy
