import MeshPolicy.Proofs.Pass.Sweep
import Mathlib.Data.List.Sort

/-! # Domains do not interfere

What a pass sends for the namespaces of other domains does not depend on what it is told about one
domain: neither on the answer of its look-up, nor on its namespaces, nor on what is stored there.

* `elsewhere`: an identity is not in a namespace of the domain.
* `AgreeElsewhere`, `ListAlike`: two passes differ at most in what belongs to the domain.
* `filter_settled_eq`, `Orphans.filter_eq`: what the two send for wanted objects and for orphans.
* `run_separates_domains`: they send the same writes elsewhere.
-/

namespace MeshPolicy
set_option autoImplicit false

open Naming

/-! ## Lists -/

theorem Ascending.eq_of_mem_iff {κ : Type} [Ord κ] [Std.TransOrd κ] {l m : List κ}
    (hl : Ascending l) (hm : Ascending m) (h : ∀ k, k ∈ l ↔ k ∈ m) : l = m := by
  have hirrefl : Std.Irrefl fun a b : κ => compare a b = .lt := ⟨fun a ha => by simp at ha⟩
  have hantisymm : Std.Antisymm fun a b : κ => compare a b = .lt :=
    ⟨fun a b hab hba => absurd (Std.TransCmp.lt_trans hab hba) (by simp)⟩
  exact List.Pairwise.eq_of_mem_iff hl hm h

/-- Elements that are made from others can be picked by what they were made from. -/
theorem filter_flatMap_of_made {α β : Type} {make : α → List β} {p : α → Bool} {q : β → Bool}
    {l : List α} (h : ∀ a ∈ l, ∀ b ∈ make a, q b = p a) :
    (l.flatMap make).filter q = (l.filter p).flatMap make := by
  induction l with
  | nil => rfl
  | cons a rest ih =>
    have hrest := ih fun x hx => h x (List.mem_cons_of_mem _ hx)
    have ha := h a List.mem_cons_self
    rw [List.flatMap_cons, List.filter_append, hrest, List.filter_cons]
    cases hp : p a with
    | true =>
      rw [if_pos rfl, List.flatMap_cons, List.filter_eq_self.2 fun b hb => (ha b hb).trans hp]
    | false =>
      rw [if_neg Bool.false_ne_true, List.filter_eq_nil_iff.2 fun b hb => by simp [ha b hb, hp],
        List.nil_append]

namespace Pass

/-! ## Passes that agree elsewhere -/

/-- Whether an identity, if there is one, lies outside the namespaces of a domain. -/
def elsewhere (domain : String) (id? : Option ObjectId) : Bool :=
  id?.all fun id => domainOfNamespace id.ns != domain

/-- Two passes are given the same, but for the namespaces of a domain and its look-ups. -/
structure AgreeElsewhere {ω ω' : Type} (domain : String) (first : Pass ω) (second : Pass ω') :
    Prop where
  dnsSuffix : first.dnsSuffix = second.dnsSuffix
  namespaces : ∀ ns, domainOfNamespace ns ≠ domain →
    (ns ∈ first.namespaces.keys ↔ ns ∈ second.namespaces.keys)
  answers : ∀ ns, domainOfNamespace ns ≠ domain → first.answers ns = second.answers ns

/-- Both fail to list, or they list the same, but for the objects in namespaces of a domain. -/
inductive ListAlike (domain : String) :
    Except StoreError Listing → Except StoreError Listing → Prop where
  | failed {error error' : StoreError} : ListAlike domain (.error error) (.error error')
  | listed {first second : Listing} (firstNamed : first.Named) (secondNamed : second.Named)
      (rules : (first.rules.filter fun object => elsewhere domain object.id?) =
        second.rules.filter fun object => elsewhere domain object.id?)
      (bindings : (first.bindings.filter fun object => elsewhere domain object.id?) =
        second.bindings.filter fun object => elsewhere domain object.id?) :
      ListAlike domain (.ok first) (.ok second)

section Kind

variable {σ : Type} {domain : String} {objects objects' : List (Object σ)}

theorem listed_elsewhere
    (h : (objects.filter fun object => elsewhere domain object.id?) =
      objects'.filter fun object => elsewhere domain object.id?)
    {id : ObjectId} (hid : elsewhere domain (some id)) :
    (∃ object ∈ objects, object.id? = some id) ↔ ∃ object ∈ objects', object.id? = some id := by
  have hmem (l : List (Object σ)) : (∃ object ∈ l, object.id? = some id) ↔
      ∃ object ∈ l.filter fun object => elsewhere domain object.id?, object.id? = some id := by
    refine exists_congr fun object => and_congr_left fun hown => ?_
    rw [List.mem_filter, hown]
    exact (and_iff_left hid).symm
  rw [hmem, h, ← hmem]

theorem find?_elsewhere
    (h : (objects.filter fun object => elsewhere domain object.id?) =
      objects'.filter fun object => elsewhere domain object.id?)
    {live live' : LiveIndex σ} (hlive : LiveIndex.ofObjects? objects = some live)
    (hlive' : LiveIndex.ofObjects? objects' = some live') {id : ObjectId}
    (hid : elsewhere domain (some id)) : live.find? id = live'.find? id := by
  have hfind (l : List (Object σ)) : (l.reverse.find? fun object => object.id? == some id) =
      (l.filter fun object => elsewhere domain object.id?).reverse.find?
        fun object => object.id? == some id := by
    rw [← List.filter_reverse, List.find?_filter]
    refine congrArg (fun p => List.find? p _) (funext fun object => ?_)
    by_cases hown : object.id? = some id
    · simp [hown, hid]
    · simp [hown]
  rw [LiveIndex.find?_ofObjects hlive, LiveIndex.find?_ofObjects hlive', hfind, h, ← hfind]

end Kind

section Two

variable {ω ω' : Type} {domain : String} {first : Pass ω} {second : Pass ω'}

/-! ## Orphans -/

theorem AgreeElsewhere.shielded_iff (h : AgreeElsewhere domain first second) {id : ObjectId}
    (hid : elsewhere domain (some id)) :
    Shielded first.answers first.namespaces.keys id.ns ↔
      Shielded second.answers second.namespaces.keys id.ns := by
  have hns : domainOfNamespace id.ns ≠ domain := by simpa [elsewhere] using hid
  refine exists_congr fun indexed => ?_
  by_cases hsame : domainOfNamespace indexed = domainOfNamespace id.ns
  · have hindexed : domainOfNamespace indexed ≠ domain := hsame ▸ hns
    rw [h.namespaces indexed hindexed, h.answers indexed hindexed]
  · simp [hsame]

theorem AgreeElsewhere.wantsRules_iff (h : AgreeElsewhere domain first second) {id : ObjectId}
    (hid : elsewhere domain (some id)) :
    WantsRules first.answers first.namespaces.keys id ↔
      WantsRules second.answers second.namespaces.keys id := by
  have hns : domainOfNamespace id.ns ≠ domain := by simpa [elsewhere] using hid
  rw [WantsRules, WantsRules, h.namespaces id.ns hns, h.answers id.ns hns]

theorem AgreeElsewhere.wantsBinding_iff (h : AgreeElsewhere domain first second) {id : ObjectId}
    (hid : elsewhere domain (some id)) :
    WantsBinding first.answers first.namespaces.keys id ↔
      WantsBinding second.answers second.namespaces.keys id := by
  have hns : domainOfNamespace id.ns ≠ domain := by simpa [elsewhere] using hid
  rw [WantsBinding, WantsBinding, h.namespaces id.ns hns, h.answers id.ns hns]

/-- The two passes have the same orphans elsewhere. -/
theorem Orphans.filter_eq {σ : Type} {objects objects' : List (Object σ)}
    {Wants Wants' : ObjectId → Prop} {ids ids' : List ObjectId}
    (hids : Orphans first.answers first.namespaces.keys objects Wants ids)
    (hids' : Orphans second.answers second.namespaces.keys objects' Wants' ids')
    (h : AgreeElsewhere domain first second)
    (hlisted : (objects.filter fun object => elsewhere domain object.id?) =
      objects'.filter fun object => elsewhere domain object.id?)
    (hwants : ∀ id, elsewhere domain (some id) → (Wants id ↔ Wants' id)) :
    (ids.filter fun id => elsewhere domain (some id)) =
      ids'.filter fun id => elsewhere domain (some id) := by
  refine Ascending.eq_of_mem_iff (hids.ascending.sublist List.filter_sublist)
    (hids'.ascending.sublist List.filter_sublist) fun id => ?_
  rw [List.mem_filter, List.mem_filter]
  refine and_congr_left fun hid => ?_
  rw [hids.exact, hids'.exact, listed_elsewhere hlisted hid, h.shielded_iff hid, hwants id hid]

/-! ## Wanted objects -/

section Settle

variable {dnsSuffix ns : String} {answers : Answers} {rules : LiveIndex ServiceRole}
  {bindings : LiveIndex RoleBinding}

/-- What is wanted for a namespace lies in that namespace. -/
theorem own_rules {id : ObjectId} {desired : Object ServiceRole}
    (h : .rules id desired ∈ wantedByNamespace dnsSuffix answers ns) :
    desired.id? = some id ∧ id.ns = ns := by
  have hmem : (id, desired) ∈ (wanted dnsSuffix answers [ns]).filterMap Wanted.rules? :=
    List.mem_filterMap.2 ⟨_, List.mem_flatMap.2 ⟨ns, List.mem_cons_self, h⟩, rfl⟩
  obtain ⟨own, hown, _, _, hbuilds, hid⟩ := mem_rulesWants.1 hmem
  rw [← List.mem_singleton.1 hown]
  exact ⟨hid, hbuilds.ns_eq hid⟩

theorem own_binding {id : ObjectId} {desired : Object RoleBinding}
    (h : .binding id desired ∈ wantedByNamespace dnsSuffix answers ns) :
    desired.id? = some id ∧ id.ns = ns := by
  have hmem : (id, desired) ∈ (wanted dnsSuffix answers [ns]).filterMap Wanted.binding? :=
    List.mem_filterMap.2 ⟨_, List.mem_flatMap.2 ⟨ns, List.mem_cons_self, h⟩, rfl⟩
  obtain ⟨own, hown, _, _, hbuilds, hid⟩ := mem_bindingWants.1 hmem
  rw [← List.mem_singleton.1 hown]
  exact ⟨hid, hbuilds.ns_eq hid⟩

theorem target?_settle {want : Wanted} {sent : Sent}
    (hwant : want ∈ wantedByNamespace dnsSuffix answers ns)
    (hsent : (settle rules bindings want).sent? = some sent) :
    ∃ id, sent.target? = some id ∧ id.ns = ns := by
  cases want with
  | rules id desired =>
    rw [sent?_settle_rules] at hsent
    obtain ⟨request, hrequest, rfl⟩ := Option.map_eq_some_iff.1 hsent
    obtain ⟨hid, hns⟩ := own_rules hwant
    have htarget := addressed_convergeRequest? hid hrequest
    rw [Request.Addressed, id_convergeRequest? hrequest] at htarget
    exact ⟨id, htarget, hns⟩
  | binding id desired =>
    rw [sent?_settle_binding] at hsent
    obtain ⟨request, hrequest, rfl⟩ := Option.map_eq_some_iff.1 hsent
    obtain ⟨hid, hns⟩ := own_binding hwant
    have htarget := addressed_convergeRequest? hid hrequest
    rw [Request.Addressed, id_convergeRequest? hrequest] at htarget
    exact ⟨id, htarget, hns⟩
  | note | unavailable | malformed => cases hsent

/-- Of the writes for wanted objects, those elsewhere are for the namespaces elsewhere. -/
theorem filter_settled (domain : String) (namespaces : List String) :
    (((wanted dnsSuffix answers namespaces).filterMap
        fun want => (settle rules bindings want).sent?).filter
          fun sent => elsewhere domain sent.target?) =
      (namespaces.filter fun ns => domainOfNamespace ns != domain).flatMap fun ns =>
        (wantedByNamespace dnsSuffix answers ns).filterMap
          fun want => (settle rules bindings want).sent? := by
  rw [wanted, List.filterMap_flatMap]
  refine filter_flatMap_of_made fun ns _ sent hmem => ?_
  obtain ⟨want, hwant, hsent⟩ := List.mem_filterMap.1 hmem
  obtain ⟨id, htarget, rfl⟩ := target?_settle hwant hsent
  rw [htarget]
  rfl

end Settle

/-- What is wanted elsewhere is the same in both passes and is compared with the same objects. -/
theorem AgreeElsewhere.filter_settled_eq (h : AgreeElsewhere domain first second)
    {rules rules' : LiveIndex ServiceRole} {bindings bindings' : LiveIndex RoleBinding}
    (hrules : ∀ id, elsewhere domain (some id) → rules.find? id = rules'.find? id)
    (hbindings : ∀ id, elsewhere domain (some id) → bindings.find? id = bindings'.find? id) :
    (((wanted first.dnsSuffix first.answers first.namespaces.keys).filterMap
        fun want => (settle rules bindings want).sent?).filter
          fun sent => elsewhere domain sent.target?) =
      ((wanted second.dnsSuffix second.answers second.namespaces.keys).filterMap
        fun want => (settle rules' bindings' want).sent?).filter
          fun sent => elsewhere domain sent.target? := by
  have hnamespaces : (first.namespaces.keys.filter fun ns => domainOfNamespace ns != domain) =
      second.namespaces.keys.filter fun ns => domainOfNamespace ns != domain := by
    refine Ascending.eq_of_mem_iff (first.namespaces.ascending.sublist List.filter_sublist)
      (second.namespaces.ascending.sublist List.filter_sublist) fun ns => ?_
    rw [List.mem_filter, List.mem_filter]
    exact and_congr_left fun hns => h.namespaces ns (by simpa using hns)
  rw [filter_settled, filter_settled, hnamespaces]
  refine List.flatMap_congr fun ns hmem => ?_
  have hns : domainOfNamespace ns ≠ domain := by simpa using (List.mem_filter.1 hmem).2
  have hsame : wantedByNamespace first.dnsSuffix first.answers ns =
      wantedByNamespace second.dnsSuffix second.answers ns := by
    unfold wantedByNamespace
    rw [h.answers ns hns, h.dnsSuffix]
  rw [hsame]
  refine List.filterMap_congr fun want hwant => ?_
  cases want with
  | rules id desired =>
    obtain ⟨_, rfl⟩ := own_rules hwant
    have hfind := hrules id (by simpa [elsewhere] using hns)
    simp only [sent?_settle_rules, convergeRequest?, hfind]
  | binding id desired =>
    obtain ⟨_, rfl⟩ := own_binding hwant
    have hfind := hbindings id (by simpa [elsewhere] using hns)
    simp only [sent?_settle_binding, convergeRequest?, hfind]
  | note | unavailable | malformed => rfl

/-! ## Runs -/

/-- Two passes that are given the same but for what belongs to a domain send the same writes, in
the same order, to the namespaces of all other domains, however their writes end. What they send is
what their stores receive. -/
theorem run_separates_domains (first : Pass ω) (second : Pass ω') (world : ω) (world' : ω')
    (h : AgreeElsewhere domain first second)
    (hlist : ListAlike domain (first.stores.list world).1 (second.stores.list world').1) :
    first.Delivers world ∧ second.Delivers world' ∧
    ((first.run world).1.sent.filter fun sent => elsewhere domain sent.target?) =
      (second.run world').1.sent.filter fun sent => elsewhere domain sent.target? := by
  refine ⟨first.delivers world, second.delivers world', ?_⟩
  rcases hfirst : first.stores.list world with ⟨result, listed⟩
  rcases hsecond : second.stores.list world' with ⟨result', listed'⟩
  rw [hfirst, hsecond] at hlist
  cases hlist with
  | failed =>
    rw [run_of_unlisted hfirst, run_of_unlisted hsecond]
    rfl
  | listed hnamed hnamed' hrules hbindings =>
    obtain ⟨rules, bindings, rulesIds, bindingIds, hliveRules, hliveBindings, _, hsent,
      hrulesIds, hbindingIds⟩ := sent_then_orphans first hfirst hnamed
    obtain ⟨rules', bindings', rulesIds', bindingIds', hliveRules', hliveBindings', _, hsent',
      hrulesIds', hbindingIds'⟩ := sent_then_orphans second hsecond hnamed'
    have hsettled := h.filter_settled_eq
      (fun _ => find?_elsewhere hrules hliveRules hliveRules')
      (fun _ => find?_elsewhere hbindings hliveBindings hliveBindings')
    have horphanRules := hrulesIds.filter_eq hrulesIds' h hrules fun _ => h.wantsRules_iff
    have horphanBindings := hbindingIds.filter_eq hbindingIds' h hbindings
      fun _ => h.wantsBinding_iff
    have hrulesDeleted := congrArg (List.map fun id => Sent.rules ⟨id, .delete⟩) horphanRules
    have hbindingsDeleted :=
      congrArg (List.map fun id => Sent.binding ⟨id, .delete⟩) horphanBindings
    simp only [hsent, hsent', List.filter_append, List.filter_map, hsettled]
    exact congrArg₂ (· ++ ·) (congrArg (_ ++ ·) hrulesDeleted) hbindingsDeleted

end Two

/-! ### The shop next to another billing

The authority answers for `billing` by now, which is no longer indexed and has no rules any more,
and the store of rules refuses to delete. -/

namespace Shop

def lookupLater : Lookup := fun name =>
  if name = "billing" then .ok { name := "billing" } else lookup name

def passLater : Pass (Disturbed ServiceRole × Disturbed RoleBinding) :=
  ofStores (answersOf lookupLater) (.ofList [("shop", ())]) "mesh" Disturbed.store Disturbed.store

def worldLater : Disturbed ServiceRole × Disturbed RoleBinding :=
  ({ memory := rules.erase ⟨"billing", "payer"⟩
     faults := [{ call := .delete, kind := .conflict }] }, {})

def listingLater : Listing where
  rules := [.withVersion (.inNamespace "shop" "writer" {}) (some "2")]
  bindings := []

theorem agree_passLater : AgreeElsewhere "billing" pass passLater where
  dnsSuffix := rfl
  namespaces ns hns := by
    have hfirst : pass.namespaces.keys = ["billing", "shop"] := rfl
    have hsecond : passLater.namespaces.keys = ["shop"] := rfl
    rw [hfirst, hsecond, List.mem_cons]
    refine or_iff_right ?_
    rintro rfl
    exact hns rfl
  answers ns hns := (if_neg hns).symm

theorem list_passLater : passLater.stores.list worldLater = (.ok listingLater, worldLater) := rfl

theorem namedLater : listingLater.Named where
  rules := by simp [listingLater]
  bindings := by simp [listingLater]

theorem listAlike_passLater :
    ListAlike "billing" (pass.stores.list world).1 (passLater.stores.list worldLater).1 := by
  rw [list_pass, list_passLater]
  exact .listed named namedLater rfl rfl

end Shop

theorem run_separates_domains_shop :
    AgreeElsewhere "billing" Shop.pass Shop.passLater ∧
    ListAlike "billing" (Shop.pass.stores.list Shop.world).1
      (Shop.passLater.stores.list Shop.worldLater).1 ∧
    ((Shop.pass.run Shop.world).1.sent.filter fun sent => elsewhere "billing" sent.target?) =
      (Shop.passLater.run Shop.worldLater).1.sent.filter
        fun sent => elsewhere "billing" sent.target? :=
  ⟨Shop.agree_passLater, Shop.listAlike_passLater,
    (run_separates_domains Shop.pass Shop.passLater Shop.world Shop.worldLater Shop.agree_passLater
      Shop.listAlike_passLater).2.2⟩

end Pass

end MeshPolicy
