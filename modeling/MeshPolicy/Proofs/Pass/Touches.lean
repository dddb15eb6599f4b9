import MeshPolicy.Proofs.Pass.Sweep

/-! # How often a pass touches an object

The entries of a role list are gone through one by one, and each is compared with what was listed. So
a pass touches an object more than once if several entries ask for it and none of them finds it as it
asks for it.

* `Sent.touched`: the object that a write is for.
* `AsListed`: an object need not be written. `WritesRules`, `WritesBinding`: what one entry writes.
* `Meet`: two entries write one object.
* `run_touches_once_iff`: a pass touches no object twice just if no two entries meet.
* `run_touches_once`: they do not, if no role is listed twice.
-/

namespace MeshPolicy.Pass
set_option autoImplicit false

open Naming

namespace Sent

def kind : Sent → Kind
  | rules _ => .serviceRole
  | binding _ => .roleBinding

/-- The object that the write is for. -/
def touched (sent : Sent) : Kind × Option ObjectId := (sent.kind, sent.target?)

end Sent

/-! ## What one entry writes -/

/-- The object is listed as it is desired. The last listed object of an identity counts. -/
def AsListed {σ : Type} (listed : List (Object σ)) (id : ObjectId) (desired : Object σ) : Prop :=
  ∃ current, (listed.reverse.find? fun o => o.id? == some id) = some current ∧
    current.spec = desired.spec

/-- The role asks for access rules that are not listed as it asks for them. -/
def WritesRules (dnsSuffix ns : String) (domain : Domain) (listed : List (Object ServiceRole))
    (role : Role) (id : ObjectId) : Prop :=
  ∃ name desired, IsServiceRole ns role.name name ∧
    Grant.rules ns dnsSuffix ("service.role." ++ name) (domain.assertionsFor role.name) =
      .ok desired ∧
    desired.id? = some id ∧ ¬ AsListed listed id desired

/-- The role asks for a binding that is not listed as it asks for it. -/
def WritesBinding (ns : String) (listed : List (Object RoleBinding)) (role : Role)
    (id : ObjectId) : Prop :=
  ∃ name desired, IsServiceRole ns role.name name ∧
    Grant.binding? ns name role.members = some desired ∧
    desired.id? = some id ∧ ¬ AsListed listed id desired

/-- Two entries of a role list write the same object. -/
def Meet (dnsSuffix ns : String) (domain : Domain) (listing : Listing) (a b : Role) : Prop :=
  ∃ id, WritesRules dnsSuffix ns domain listing.rules a id ∧
      WritesRules dnsSuffix ns domain listing.rules b id ∨
    WritesBinding ns listing.bindings a id ∧ WritesBinding ns listing.bindings b id

theorem WritesRules.id_eq {dnsSuffix ns : String} {domain : Domain}
    {listed : List (Object ServiceRole)} {role : Role} {id : ObjectId}
    (h : WritesRules dnsSuffix ns domain listed role id) :
    id.ns = ns ∧ IsServiceRole ns role.name id.name := by
  obtain ⟨name, desired, hname, hbuilds, hid, _⟩ := h
  cases hid.symm.trans (Grant.id?_rules hbuilds)
  exact ⟨rfl, hname⟩

theorem WritesBinding.id_eq {ns : String} {listed : List (Object RoleBinding)} {role : Role}
    {id : ObjectId} (h : WritesBinding ns listed role id) :
    id.ns = ns ∧ IsServiceRole ns role.name id.name := by
  obtain ⟨name, desired, hname, hbuilds, hid, _⟩ := h
  cases hid.symm.trans (Grant.id?_binding hbuilds)
  exact ⟨rfl, hname⟩

/-- Entries that meet are for one role. -/
theorem Meet.same_name {dnsSuffix ns : String} {domain : Domain} {listing : Listing} {a b : Role}
    (h : Meet dnsSuffix ns domain listing a b) : a.name = b.name := by
  obtain ⟨id, ⟨ha, hb⟩ | ⟨ha, hb⟩⟩ := h
  · rw [ha.id_eq.2.fullName, hb.id_eq.2.fullName]
  · rw [ha.id_eq.2.fullName, hb.id_eq.2.fullName]

theorem converges_iff {σ : Type} [DecidableEq σ] {listed : List (Object σ)} {live : LiveIndex σ}
    (hlive : LiveIndex.ofObjects? listed = some live) {id : ObjectId} {desired : Object σ} :
    (∃ request, convergeRequest? live id desired = some request) ↔ ¬ AsListed listed id desired := by
  rw [← Option.ne_none_iff_exists', ne_eq, convergeRequest?_eq_none, LiveIndex.find?_ofObjects hlive,
    AsListed]

theorem target?_convergeRequest? {σ : Type} [DecidableEq σ] {live : LiveIndex σ} {id : ObjectId}
    {desired : Object σ} {request : Request σ} (hid : desired.id? = some id)
    (h : convergeRequest? live id desired = some request) : request.target? = some id := by
  have htarget := addressed_convergeRequest? hid h
  rwa [Request.Addressed, id_convergeRequest? h] at htarget

section Role

variable {dnsSuffix ns : String} {domain : Domain} {listing : Listing}
  {rules : LiveIndex ServiceRole} {bindings : LiveIndex RoleBinding} {role : Role}

/-- The objects that the entries of some wants touch. -/
def touches (rules : LiveIndex ServiceRole) (bindings : LiveIndex RoleBinding)
    (wants : List Wanted) : List (Kind × Option ObjectId) :=
  (wants.filterMap fun want => (settle rules bindings want).sent?).map Sent.touched

/-- An object is touched if something that is wanted takes a write to it. -/
theorem mem_touches {wants : List Wanted} {touched : Kind × Option ObjectId} :
    touched ∈ touches rules bindings wants ↔
      (∃ id desired, .rules id desired ∈ wants ∧ ∃ request,
        convergeRequest? rules id desired = some request ∧
          touched = (.serviceRole, request.target?)) ∨
      ∃ id desired, .binding id desired ∈ wants ∧ ∃ request,
        convergeRequest? bindings id desired = some request ∧
          touched = (.roleBinding, request.target?) := by
  simp only [touches, List.mem_map, List.mem_filterMap]
  constructor
  · rintro ⟨sent, ⟨want, hwant, hsent⟩, rfl⟩
    cases want with
    | rules id desired =>
      rw [sent?_settle_rules] at hsent
      obtain ⟨request, hrequest, rfl⟩ := Option.map_eq_some_iff.1 hsent
      exact .inl ⟨id, desired, hwant, request, hrequest, rfl⟩
    | binding id desired =>
      rw [sent?_settle_binding] at hsent
      obtain ⟨request, hrequest, rfl⟩ := Option.map_eq_some_iff.1 hsent
      exact .inr ⟨id, desired, hwant, request, hrequest, rfl⟩
    | note | unavailable | malformed => cases hsent
  · rintro (⟨id, desired, hwant, request, hrequest, rfl⟩ |
      ⟨id, desired, hwant, request, hrequest, rfl⟩)
    · exact ⟨.rules request, ⟨_, hwant, by rw [sent?_settle_rules, hrequest]; rfl⟩, rfl⟩
    · exact ⟨.binding request, ⟨_, hwant, by rw [sent?_settle_binding, hrequest]; rfl⟩, rfl⟩

theorem mem_touches_role (hrules : LiveIndex.ofObjects? listing.rules = some rules)
    (hbindings : LiveIndex.ofObjects? listing.bindings = some bindings)
    {touched : Kind × Option ObjectId} :
    touched ∈ touches rules bindings (wantedByRole dnsSuffix ns domain role) ↔
      ∃ id, touched = (.serviceRole, some id) ∧
          WritesRules dnsSuffix ns domain listing.rules role id ∨
        touched = (.roleBinding, some id) ∧ WritesBinding ns listing.bindings role id := by
  have hcases := wantedByRole_cases dnsSuffix ns domain role
  simp only [mem_touches, hcases.rules_mem, hcases.binding_mem]
  constructor
  · rintro (⟨id, desired, ⟨name, hname, hbuilds, hid⟩, request, hrequest, rfl⟩ |
      ⟨id, desired, ⟨name, hname, hbuilds, hid⟩, request, hrequest, rfl⟩)
    · rw [target?_convergeRequest? hid hrequest]
      exact ⟨id, .inl ⟨rfl, name, desired, hname, hbuilds, hid,
        (converges_iff hrules).1 ⟨request, hrequest⟩⟩⟩
    · rw [target?_convergeRequest? hid hrequest]
      exact ⟨id, .inr ⟨rfl, name, desired, hname, hbuilds, hid,
        (converges_iff hbindings).1 ⟨request, hrequest⟩⟩⟩
  · rintro ⟨id, ⟨rfl, name, desired, hname, hbuilds, hid, hdiffers⟩ |
      ⟨rfl, name, desired, hname, hbuilds, hid, hdiffers⟩⟩
    · obtain ⟨request, hrequest⟩ := (converges_iff hrules).2 hdiffers
      refine .inl ⟨id, desired, ⟨name, hname, hbuilds, hid⟩, request, hrequest, ?_⟩
      rw [target?_convergeRequest? hid hrequest]
    · obtain ⟨request, hrequest⟩ := (converges_iff hbindings).2 hdiffers
      refine .inr ⟨id, desired, ⟨name, hname, hbuilds, hid⟩, request, hrequest, ?_⟩
      rw [target?_convergeRequest? hid hrequest]

/-- One entry touches its rules and its binding once at most. -/
theorem Asks.nodup_touches {wants : List Wanted} (h : Asks dnsSuffix ns domain role wants)
    (rules : LiveIndex ServiceRole) (bindings : LiveIndex RoleBinding) :
    (touches rules bindings wants).Nodup := by
  have hnotes (events : List Log.Event) :
      (events.map Wanted.note).filterMap (fun want => (settle rules bindings want).sent?) = [] := by
    rw [List.filterMap_map]
    exact List.filterMap_eq_nil_iff.2 fun _ _ => rfl
  cases h with
  | @serviceRole name desired events skipped =>
    rw [touches, List.filterMap_append, hnotes, List.nil_append, List.filterMap_cons,
      List.filterMap_append, hnotes, List.nil_append, sent?_settle_rules]
    cases convergeRequest? rules ⟨ns, name⟩ desired <;>
      cases Grant.binding? ns name role.members with
      | none => simp
      | some object =>
        simp only [Option.toList_some, List.map_cons, List.map_nil, List.filterMap_cons,
          sent?_settle_binding, List.filterMap_nil]
        cases convergeRequest? bindings ⟨ns, name⟩ object <;> simp [Sent.touched, Sent.kind]
  | malformed | other => exact List.nodup_nil

end Role

section Wants

variable {dnsSuffix : String} {answers : Answers} {namespaces : List String} {listing : Listing}
  {rules : LiveIndex ServiceRole} {bindings : LiveIndex RoleBinding}

theorem touches_flatMap {α : Type} (f : α → List Wanted) (l : List α) :
    touches rules bindings (l.flatMap f) = l.flatMap fun a => touches rules bindings (f a) := by
  rw [touches, List.filterMap_flatMap, List.map_flatMap]
  rfl

theorem touches_unavailable {ns : String} {error : LookupError} (h : answers ns = .error error) :
    touches rules bindings (wantedByNamespace dnsSuffix answers ns) = [] := by
  obtain ⟨event, hevent⟩ := wantedByNamespace_error dnsSuffix h
  rw [hevent]
  rfl

theorem touches_domain {ns : String} {domain : Domain} (h : answers ns = .ok domain) :
    touches rules bindings (wantedByNamespace dnsSuffix answers ns) =
      domain.roles.flatMap fun role =>
        touches rules bindings (wantedByRole dnsSuffix ns domain role) := by
  rw [wantedByNamespace_ok h, touches_flatMap]

/-- A namespace touches only objects in it. -/
theorem ns_of_mem_touches (hrules : LiveIndex.ofObjects? listing.rules = some rules)
    (hbindings : LiveIndex.ofObjects? listing.bindings = some bindings) {ns : String}
    {touched : Kind × Option ObjectId}
    (h : touched ∈ touches rules bindings (wantedByNamespace dnsSuffix answers ns)) :
    ∃ id, touched.2 = some id ∧ id.ns = ns := by
  cases hanswer : answers ns with
  | error =>
    rw [touches_unavailable hanswer] at h
    cases h
  | ok domain =>
    rw [touches_domain hanswer, List.mem_flatMap] at h
    obtain ⟨role, _, hmem⟩ := h
    obtain ⟨id, ⟨rfl, hwrites⟩ | ⟨rfl, hwrites⟩⟩ := (mem_touches_role hrules hbindings).1 hmem
    · exact ⟨id, rfl, hwrites.id_eq.1⟩
    · exact ⟨id, rfl, hwrites.id_eq.1⟩

theorem disjoint_touches_iff (hrules : LiveIndex.ofObjects? listing.rules = some rules)
    (hbindings : LiveIndex.ofObjects? listing.bindings = some bindings) {ns : String}
    {domain : Domain} {a b : Role} :
    List.Disjoint (touches rules bindings (wantedByRole dnsSuffix ns domain a))
        (touches rules bindings (wantedByRole dnsSuffix ns domain b)) ↔
      ¬ Meet dnsSuffix ns domain listing a b := by
  simp only [List.Disjoint, mem_touches_role hrules hbindings]
  constructor
  · rintro h ⟨id, ⟨ha, hb⟩ | ⟨ha, hb⟩⟩
    · exact h ⟨id, .inl ⟨rfl, ha⟩⟩ ⟨id, .inl ⟨rfl, hb⟩⟩
    · exact h ⟨id, .inr ⟨rfl, ha⟩⟩ ⟨id, .inr ⟨rfl, hb⟩⟩
  · rintro h touched ⟨id, ⟨rfl, ha⟩ | ⟨rfl, ha⟩⟩ ⟨id', ⟨heq, hb⟩ | ⟨heq, hb⟩⟩
    · cases heq
      exact h ⟨id, .inl ⟨ha, hb⟩⟩
    · cases heq
    · cases heq
    · cases heq
      exact h ⟨id, .inr ⟨ha, hb⟩⟩

/-- What is wanted touches no object twice just if no two entries of a role list meet. -/
theorem nodup_touches_iff (hn : namespaces.Nodup)
    (hrules : LiveIndex.ofObjects? listing.rules = some rules)
    (hbindings : LiveIndex.ofObjects? listing.bindings = some bindings) :
    (touches rules bindings (wanted dnsSuffix answers namespaces)).Nodup ↔
      ∀ ns ∈ namespaces, ∀ domain, answers ns = .ok domain →
        domain.roles.Pairwise fun a b => ¬ Meet dnsSuffix ns domain listing a b := by
  have hapart : namespaces.Pairwise fun ns ns' =>
      List.Disjoint (touches rules bindings (wantedByNamespace dnsSuffix answers ns))
        (touches rules bindings (wantedByNamespace dnsSuffix answers ns')) := by
    refine hn.imp fun {ns ns'} hne touched hmem hmem' => ?_
    obtain ⟨id, hid, rfl⟩ := ns_of_mem_touches hrules hbindings hmem
    obtain ⟨id', hid', rfl⟩ := ns_of_mem_touches hrules hbindings hmem'
    exact hne (congrArg ObjectId.ns (Option.some.inj (hid.symm.trans hid')))
  rw [wanted, touches_flatMap, List.nodup_flatMap, and_iff_left hapart]
  refine forall₂_congr fun ns _ => ?_
  cases hanswer : answers ns with
  | error =>
    rw [touches_unavailable hanswer]
    refine iff_of_true List.nodup_nil fun domain hdomain => ?_
    cases hdomain
  | ok domain =>
    rw [touches_domain hanswer, List.nodup_flatMap,
      and_iff_right fun role _ =>
        (wantedByRole_cases dnsSuffix ns domain role).nodup_touches rules bindings]
    simp only [Except.ok.injEq, forall_eq']
    exact List.Pairwise.iff fun a b => disjoint_touches_iff hrules hbindings

/-- What is touched to make a wanted object so is wanted. -/
theorem claimed_of_mem_touches {touched : Kind × Option ObjectId}
    (h : touched ∈ touches rules bindings (wanted dnsSuffix answers namespaces)) :
    (∃ id ∈ (wanted dnsSuffix answers namespaces).filterMap Wanted.rulesId?,
      touched = (.serviceRole, some id)) ∨
    ∃ id ∈ (wanted dnsSuffix answers namespaces).filterMap Wanted.bindingId?,
      touched = (.roleBinding, some id) := by
  rcases mem_touches.1 h with ⟨id, desired, hwant, request, hrequest, rfl⟩ |
    ⟨id, desired, hwant, request, hrequest, rfl⟩
  · have hid := (answered_rulesWants _ (List.mem_filterMap.2 ⟨_, hwant, rfl⟩)).1
    rw [target?_convergeRequest? hid hrequest]
    exact .inl ⟨id, List.mem_filterMap.2 ⟨_, hwant, rfl⟩, rfl⟩
  · have hid := (answered_bindingWants _ (List.mem_filterMap.2 ⟨_, hwant, rfl⟩)).1
    rw [target?_convergeRequest? hid hrequest]
    exact .inr ⟨id, List.mem_filterMap.2 ⟨_, hwant, rfl⟩, rfl⟩

theorem not_claimed_of_mem_orphans {σ : Type} {failed : SortedSet String}
    {listed : List (Object σ)} {live : LiveIndex σ}
    (hlive : LiveIndex.ofObjects? listed = some live) {claimed : List ObjectId} {id : ObjectId}
    (h : id ∈ orphans failed live claimed) : id ∉ claimed := by
  rw [orphans, List.mem_filter, LiveIndex.mem_unclaimed_claimAll hlive] at h
  exact h.1.2

/-- The sweep touches each object once, and none that is wanted. -/
theorem nodup_sent_plan_iff (failed : SortedSet String)
    (hrules : LiveIndex.ofObjects? listing.rules = some rules)
    (hbindings : LiveIndex.ofObjects? listing.bindings = some bindings) :
    (((plan failed (wanted dnsSuffix answers namespaces) rules bindings).filterMap Step.sent?).map
        Sent.touched).Nodup ↔
      (touches rules bindings (wanted dnsSuffix answers namespaces)).Nodup := by
  have hrulesOnce : ((orphans failed rules ((wanted dnsSuffix answers namespaces).filterMap
      Wanted.rulesId?)).map fun id => (Kind.serviceRole, some id)).Nodup :=
    ((LiveIndex.nodup_unclaimed _).filter _).map fun _ _ h => Option.some.inj (congrArg Prod.snd h)
  have hbindingsOnce : ((orphans failed bindings ((wanted dnsSuffix answers namespaces).filterMap
      Wanted.bindingId?)).map fun id => (Kind.roleBinding, some id)).Nodup :=
    ((LiveIndex.nodup_unclaimed _).filter _).map fun _ _ h => Option.some.inj (congrArg Prod.snd h)
  rw [sent_plan, List.map_append, List.map_append, List.map_map, List.map_map, ← touches]
  constructor
  · exact fun h => (List.nodup_append'.1 (List.nodup_append'.1 h).1).1
  · intro h
    refine List.nodup_append'.2 ⟨List.nodup_append'.2 ⟨h, hrulesOnce, ?_⟩, hbindingsOnce, ?_⟩
    · intro touched hmem hswept
      obtain ⟨id, horphan, rfl⟩ := List.mem_map.1 hswept
      rcases claimed_of_mem_touches hmem with ⟨_, hclaimed, heq⟩ | ⟨_, _, heq⟩
      · cases heq
        exact not_claimed_of_mem_orphans hrules horphan hclaimed
      · cases heq
    · intro touched hmem hswept
      obtain ⟨id, horphan, rfl⟩ := List.mem_map.1 hswept
      rcases List.mem_append.1 hmem with hmem | hmem
      · rcases claimed_of_mem_touches hmem with ⟨_, _, heq⟩ | ⟨_, hclaimed, heq⟩
        · cases heq
        · cases heq
          exact not_claimed_of_mem_orphans hbindings horphan hclaimed
      · obtain ⟨_, _, heq⟩ := List.mem_map.1 hmem
        cases heq

end Wants

/-! ## A pass -/

section Run

variable {ω : Type} {world listed : ω} {listing : Listing}

/-- A pass that has listed both kinds touches no object twice just if no two entries of one role list
meet. How its writes end does not matter, and each of them reaches its store. -/
theorem run_touches_once_iff (pass : Pass ω) (hlist : pass.stores.list world = (.ok listing, listed))
    (hn : listing.Named) :
    pass.Delivers world ∧
    (((pass.run world).1.sent.map Sent.touched).Nodup ↔
      ∀ ns ∈ pass.namespaces.keys, ∀ domain, pass.answers ns = .ok domain →
        domain.roles.Pairwise fun a b => ¬ Meet pass.dnsSuffix ns domain listing a b) := by
  refine ⟨pass.delivers world, ?_⟩
  obtain ⟨rules, bindings, hrules, hbindings, _, hsent⟩ := sent_of_listed hlist hn
  rw [hsent, stepsFor, nodup_sent_plan_iff pass.failed hrules hbindings,
    nodup_touches_iff (SortedMap.nodup_keys _) hrules hbindings]

/-- If no domain lists a role twice, a pass touches no object twice, whatever it lists. -/
theorem run_touches_once (pass : Pass ω) (world : ω)
    (hroles : NoRoleTwice pass.answers pass.namespaces.keys) :
    ((pass.run world).1.sent.map Sent.touched).Nodup := by
  rcases sent_run pass world with hnone | ⟨listedRules, listedBindings, rules, bindings, hrules,
    hbindings, hsent⟩
  · rw [hnone]
    exact List.nodup_nil
  · let listing : Listing := ⟨listedRules, listedBindings⟩
    have hrules : LiveIndex.ofObjects? listing.rules = some rules := hrules
    have hbindings : LiveIndex.ofObjects? listing.bindings = some bindings := hbindings
    rw [hsent, nodup_sent_plan_iff _ hrules hbindings,
      nodup_touches_iff (SortedMap.nodup_keys _) hrules hbindings]
    intro ns hns domain hanswer
    refine (List.pairwise_map.1 (hroles ns hns domain hanswer)).imp fun hne hmeet => hne ?_
    exact hmeet.same_name

end Run

/-! ### Two entries of one role -/

namespace Shop

/-- The shop's domain, which lists its reader twice. -/
def twins : Domain :=
  { domain with roles := [⟨"shop:role.service.role.reader", ["people.alice"]⟩,
      ⟨"shop:role.service.role.reader", ["people.alice"]⟩] }

def twinPass : Pass (Disturbed ServiceRole × Disturbed RoleBinding) :=
  ofStores (answersOf fun _ => .ok twins) (.ofList [("shop", ())]) "mesh" Disturbed.store
    Disturbed.store

theorem list_twinPass : twinPass.stores.list world = (.ok listing, world) := rfl

theorem isServiceRole_reader : IsServiceRole "shop" "shop:role.service.role.reader" "reader" where
  fullName := rfl
  nonempty := by decide
  noDotAtEnd rest h := by
    have hdot := getLast?_eq_dot_iff.2 ⟨rest, h⟩
    revert hdot
    decide

/-- Either entry writes the reader's rules, which are not listed. -/
theorem writesRules_reader : WritesRules "mesh" "shop" twins listing.rules
    ⟨"shop:role.service.role.reader", ["people.alice"]⟩ ⟨"shop", "reader"⟩ := by
  obtain ⟨account, hlast⟩ := exists_lastSegment "reader"
  refine ⟨"reader", _, isServiceRole_reader,
    Grant.rules_of_isServiceRole isServiceRole_reader hlast "mesh" _, rfl, ?_⟩
  rintro ⟨current, hfound, _⟩
  have hnone : (listing.rules.reverse.find? fun o => o.id? == some ⟨"shop", "reader"⟩) = none := rfl
  rw [hnone] at hfound
  cases hfound

end Shop

theorem run_touches_once_iff_twins :
    Shop.twinPass.stores.list Shop.world = (.ok Shop.listing, Shop.world) ∧ Shop.listing.Named ∧
      ¬ ((Shop.twinPass.run Shop.world).1.sent.map Sent.touched).Nodup := by
  refine ⟨Shop.list_twinPass, Shop.named, fun hnodup => ?_⟩
  obtain ⟨_, hiff⟩ := run_touches_once_iff Shop.twinPass Shop.list_twinPass Shop.named
  have hentries := hiff.1 hnodup "shop" (by decide) Shop.twins rfl
  exact (List.pairwise_cons.1 hentries).1 _ List.mem_cons_self
    ⟨_, .inl ⟨Shop.writesRules_reader, Shop.writesRules_reader⟩⟩

/-- The second entry fails to create what the first one has just created. -/
theorem run_touches_twice_twins :
    (Shop.twinPass.run Shop.world).1.sent.map Sent.touched =
      [(.serviceRole, some ⟨"shop", "reader"⟩), (.roleBinding, some ⟨"shop", "reader"⟩),
        (.serviceRole, some ⟨"shop", "reader"⟩), (.roleBinding, some ⟨"shop", "reader"⟩),
        (.serviceRole, some ⟨"billing", "payer"⟩), (.serviceRole, some ⟨"shop", "writer"⟩)] := by
  decide

end MeshPolicy.Pass
