import MeshPolicy.Pass.Run
import MeshPolicy.Proofs.LiveIndex.Claims
import MeshPolicy.Proofs.Pass.Wanted
import MeshPolicy.Proofs.Store.Contract
import Mathlib.Data.List.Nodup

/-! # The writes of a plan, one kind at a time

A plan mixes the writes of both kinds with steps that only report. For one kind, its writes are a
list of requests that depends on that kind's live objects and wants alone.

* `requestsFor`: that list. `rulesRequests_plan`, `bindingRequests_plan`: it is the plan's.
* `nodup_requestsFor`: no identity is written twice if none is wanted twice.
* `requestsFor_eq_nil`: there are no requests where everything is as wanted.
* `Settles`, `settles_performAll`: what the requests leave in a store that keeps its contract.
-/

namespace MeshPolicy.Pass
set_option autoImplicit false

/-! ## The writes of a kind -/

def Step.rulesRequest? : Step → Option (Request ServiceRole)
  | .rules request => some request
  | _ => none

def Step.bindingRequest? : Step → Option (Request RoleBinding)
  | .binding request => some request
  | _ => none

section Kind

variable {σ : Type} [DecidableEq σ]

/-- The write that makes the object with an identity the desired one, if it takes one. -/
def convergeRequest? (live : LiveIndex σ) (id : ObjectId) (desired : Object σ) :
    Option (Request σ) :=
  match live.find? id with
  | none => some ⟨id, .create desired⟩
  | some current => (revision? current desired).map fun object => ⟨id, .replace object⟩

/-- The deletion of an object that nobody wants, unless its domain could not be looked up. -/
def discardRequest? (σ : Type) (failed : SortedSet String) (id : ObjectId) : Option (Request σ) :=
  if failed.contains (Naming.domainOfNamespace id.ns) then none else some ⟨id, .delete⟩

/-- The writes to the objects of one kind. -/
def requestsFor (failed : SortedSet String) (wants : List (ObjectId × Object σ))
    (live : LiveIndex σ) : List (Request σ) :=
  wants.filterMap (fun want => convergeRequest? live want.1 want.2) ++
    (live.claimAll (wants.map Prod.fst)).unclaimed.filterMap (discardRequest? σ failed)

variable [Resource σ]

/-- What is read off the step for a want is read off its write, if it takes one. -/
theorem pick_converge {β : Type} {pick : Step → Option β} {step : Request σ → Step}
    (write : Request σ → Option β) (hstep : ∀ request, pick (step request) = write request)
    (hnote : ∀ e, pick (.note e) = none) (live : LiveIndex σ) (id : ObjectId)
    (desired : Object σ) :
    pick (converge step live id desired) = (convergeRequest? live id desired).bind write := by
  unfold converge convergeRequest?
  cases live.find? id with
  | none => exact hstep _
  | some current =>
    simp only
    cases revision? current desired with
    | none => exact hnote _
    | some object => exact hstep _

omit [DecidableEq σ] in
theorem filterMap_pick_sweep {β : Type} {pick : Step → Option β} {step : Request σ → Step}
    (write : Request σ → Option β) (hstep : ∀ request, pick (step request) = write request)
    (hnote : ∀ e, pick (.note e) = none) (failed : SortedSet String) (live : LiveIndex σ)
    (claimed : List ObjectId) :
    (sweep step failed live claimed).filterMap pick =
      ((live.claimAll claimed).unclaimed.filterMap (discardRequest? σ failed)).filterMap write := by
  rw [sweep, List.filterMap_map, List.filterMap_filterMap]
  refine congrArg (fun f => List.filterMap f _) (funext fun id => ?_)
  simp only [Function.comp_apply, discard, discardRequest?]
  split
  · exact hnote _
  · exact hstep _

end Kind

/-- The writes of the steps for what is wanted, if each step has the write of its want. -/
theorem filterMap_settle {σ : Type} {pick : Step → Option (Request σ)}
    {want? : Wanted → Option (ObjectId × Object σ)} {write? : ObjectId → Object σ → Option (Request σ)}
    {rules : LiveIndex ServiceRole} {bindings : LiveIndex RoleBinding}
    (h : ∀ want, pick (settle rules bindings want) =
      (want? want).bind fun wanted => write? wanted.1 wanted.2) (wants : List Wanted) :
    (wants.map (settle rules bindings)).filterMap pick =
      (wants.filterMap want?).filterMap fun wanted => write? wanted.1 wanted.2 := by
  rw [List.filterMap_map, List.filterMap_filterMap]
  exact congrArg (fun f => List.filterMap f wants) (funext h)

theorem rulesRequests_plan (failed : SortedSet String) (wants : List Wanted)
    (rules : LiveIndex ServiceRole) (bindings : LiveIndex RoleBinding) :
    (plan failed wants rules bindings).filterMap Step.rulesRequest? =
      requestsFor failed (wants.filterMap Wanted.rules?) rules := by
  have hsettle (want : Wanted) : (settle rules bindings want).rulesRequest? =
      want.rules?.bind fun wanted => convergeRequest? rules wanted.1 wanted.2 := by
    cases want with
    | rules id desired =>
      exact (pick_converge some (fun _ => rfl) (fun _ => rfl) rules id desired).trans
        (Option.bind_fun_some _)
    | binding id desired =>
      exact (pick_converge (fun _ => none) (fun _ => rfl) (fun _ => rfl) bindings id desired).trans
        (Option.bind_fun_none _)
    | _ => rfl
  rw [plan, List.filterMap_append, List.filterMap_append, filterMap_settle hsettle,
    filterMap_pick_sweep some (fun _ => rfl) (fun _ => rfl),
    filterMap_pick_sweep (fun _ => none) (fun _ => rfl) (fun _ => rfl), List.filterMap_some,
    List.filterMap_none, List.append_nil, requestsFor, map_fst_rules]

theorem bindingRequests_plan (failed : SortedSet String) (wants : List Wanted)
    (rules : LiveIndex ServiceRole) (bindings : LiveIndex RoleBinding) :
    (plan failed wants rules bindings).filterMap Step.bindingRequest? =
      requestsFor failed (wants.filterMap Wanted.binding?) bindings := by
  have hsettle (want : Wanted) : (settle rules bindings want).bindingRequest? =
      want.binding?.bind fun wanted => convergeRequest? bindings wanted.1 wanted.2 := by
    cases want with
    | rules id desired =>
      exact (pick_converge (fun _ => none) (fun _ => rfl) (fun _ => rfl) rules id desired).trans
        (Option.bind_fun_none _)
    | binding id desired =>
      exact (pick_converge some (fun _ => rfl) (fun _ => rfl) bindings id desired).trans
        (Option.bind_fun_some _)
    | _ => rfl
  rw [plan, List.filterMap_append, List.filterMap_append, filterMap_settle hsettle,
    filterMap_pick_sweep (fun _ => none) (fun _ => rfl) (fun _ => rfl),
    filterMap_pick_sweep some (fun _ => rfl) (fun _ => rfl), List.filterMap_some,
    List.filterMap_none, List.append_nil, requestsFor, map_fst_bindings]

section Effect

variable {σ ω : Type} [DecidableEq σ] {failed : SortedSet String}
  {wants : List (ObjectId × Object σ)} {live : LiveIndex σ}

/-- A wanted object that is missing is created, and one that differs is replaced by the desired one
under its own version. -/
theorem convergeRequest?_eq_some {id : ObjectId} {desired : Object σ} {request : Request σ} :
    convergeRequest? live id desired = some request ↔
      (live.find? id = none ∧ request = ⟨id, .create desired⟩) ∨
        ∃ current, live.find? id = some current ∧ current.spec ≠ desired.spec ∧
          request = ⟨id, .replace (desired.withVersion current.metadata.resourceVersion)⟩ := by
  unfold convergeRequest?
  cases live.find? id with
  | none => simp [eq_comm]
  | some current =>
    by_cases hspec : current.spec = desired.spec
    · simp [revision?, hspec]
    · have hrevised : revision? current desired =
        some (desired.withVersion current.metadata.resourceVersion) := if_neg hspec
      simp only [hrevised, Option.map_some, Option.some.injEq]
      constructor
      · rintro rfl
        exact .inr ⟨current, rfl, hspec, rfl⟩
      · rintro (⟨hnone, _⟩ | ⟨_, rfl, _, rfl⟩)
        · cases hnone
        · rfl

theorem id_convergeRequest? {id : ObjectId} {desired : Object σ} {request : Request σ}
    (h : convergeRequest? live id desired = some request) : request.id = id := by
  rcases convergeRequest?_eq_some.1 h with ⟨_, rfl⟩ | ⟨_, _, _, rfl⟩ <;> rfl

theorem call_convergeRequest? {id : ObjectId} {desired : Object σ} {request : Request σ}
    (h : convergeRequest? live id desired = some request) : request.call ≠ .delete := by
  rcases convergeRequest?_eq_some.1 h with ⟨_, rfl⟩ | ⟨_, _, _, rfl⟩ <;> exact Call.noConfusion

theorem convergeRequest?_eq_none {id : ObjectId} {desired : Object σ} :
    convergeRequest? live id desired = none ↔
      ∃ current, live.find? id = some current ∧ current.spec = desired.spec := by
  unfold convergeRequest? revision?
  cases live.find? id <;> simp

omit [DecidableEq σ] in
theorem discardRequest?_eq_some {id : ObjectId} {request : Request σ} :
    discardRequest? σ failed id = some request ↔
      failed.contains (Naming.domainOfNamespace id.ns) = false ∧ request = ⟨id, .delete⟩ := by
  unfold discardRequest?
  split
  next h => simp [h]
  next h =>
    simp only [h, Option.some.injEq, true_and]
    exact eq_comm

theorem addressed_convergeRequest? {id : ObjectId} {desired : Object σ} {request : Request σ}
    (hid : desired.id? = some id) (h : convergeRequest? live id desired = some request) :
    request.Addressed := by
  rcases convergeRequest?_eq_some.1 h with ⟨_, rfl⟩ | ⟨_, _, _, rfl⟩ <;> exact hid

theorem addressed_requestsFor (hids : ∀ want ∈ wants, want.2.id? = some want.1) :
    ∀ request ∈ requestsFor failed wants live, request.Addressed := by
  intro request hmem
  rcases List.mem_append.1 hmem with hmem | hmem
  · obtain ⟨want, hwant, hrequest⟩ := List.mem_filterMap.1 hmem
    exact addressed_convergeRequest? (hids want hwant) hrequest
  · obtain ⟨id, _, hrequest⟩ := List.mem_filterMap.1 hmem
    rw [(discardRequest?_eq_some.1 hrequest).2]
    rfl

/-- Requests made one for each element, of the element's identity, keep to the order of these. -/
theorem sublist_ids {α τ : Type} (make : α → Option (Request τ)) (id : α → ObjectId)
    (h : ∀ a request, make a = some request → request.id = id a) (l : List α) :
    ((l.filterMap make).map Request.id).Sublist (l.map id) := by
  induction l with
  | nil => exact .refl _
  | cons a rest ih =>
    cases hmake : make a with
    | none =>
      rw [List.filterMap_cons_none hmake, List.map_cons]
      exact ih.cons _
    | some request =>
      rw [List.filterMap_cons_some hmake, List.map_cons, List.map_cons, h a request hmake]
      exact ih.cons_cons _

theorem sublist_convergeIds : ((wants.filterMap fun want => convergeRequest? live want.1 want.2).map
    Request.id).Sublist (wants.map Prod.fst) :=
  sublist_ids _ _ (fun _ _ h => id_convergeRequest? h) wants

omit [DecidableEq σ] in
theorem sublist_discardIds (ids : List ObjectId) :
    ((ids.filterMap (discardRequest? σ failed)).map Request.id).Sublist ids := by
  have h := sublist_ids (discardRequest? σ failed) id
    (fun _ _ h => by rw [(discardRequest?_eq_some.1 h).2]; rfl) ids
  rwa [List.map_id] at h

theorem mem_requestsFor {objects : List (Object σ)}
    (hlive : LiveIndex.ofObjects? objects = some live) {request : Request σ} :
    request ∈ requestsFor failed wants live ↔
      (∃ want ∈ wants, convergeRequest? live want.1 want.2 = some request) ∨
      ∃ id, live.find? id ≠ none ∧ id ∉ wants.map Prod.fst ∧
        discardRequest? σ failed id = some request := by
  simp only [requestsFor, List.mem_append, List.mem_filterMap,
    LiveIndex.mem_unclaimed_claimAll hlive, and_assoc]

/-- An identity is written to if it is wanted and not as wanted, or if it may be deleted. -/
theorem mem_requestIds {objects : List (Object σ)}
    (hlive : LiveIndex.ofObjects? objects = some live) {id : ObjectId} :
    id ∈ (requestsFor failed wants live).map Request.id ↔
      (∃ desired, (id, desired) ∈ wants ∧ convergeRequest? live id desired ≠ none) ∨
      (live.find? id ≠ none ∧ id ∉ wants.map Prod.fst ∧
        failed.contains (Naming.domainOfNamespace id.ns) = false) := by
  simp only [List.mem_map, mem_requestsFor hlive]
  constructor
  · intro h
    obtain ⟨request, ⟨want, hwant, hsome⟩ | ⟨own, hfound, hnot, hsome⟩, rfl⟩ := h
    · rw [id_convergeRequest? hsome]
      exact .inl ⟨want.2, hwant, by simp [hsome]⟩
    · obtain ⟨hfree, rfl⟩ := discardRequest?_eq_some.1 hsome
      exact .inr ⟨hfound, hnot, hfree⟩
  · rintro (⟨desired, hwant, hsome⟩ | ⟨hfound, hnot, hfree⟩)
    · obtain ⟨request, hrequest⟩ := Option.ne_none_iff_exists'.1 hsome
      exact ⟨request, .inl ⟨_, hwant, hrequest⟩, id_convergeRequest? hrequest⟩
    · exact ⟨⟨id, .delete⟩, .inr ⟨id, hfound, hnot, discardRequest?_eq_some.2 ⟨hfree, rfl⟩⟩, rfl⟩

theorem nodup_requestsFor {objects : List (Object σ)}
    (hlive : LiveIndex.ofObjects? objects = some live) (hn : (wants.map Prod.fst).Nodup) :
    ((requestsFor failed wants live).map Request.id).Nodup := by
  rw [requestsFor, List.map_append, List.nodup_append']
  refine ⟨hn.sublist sublist_convergeIds,
    (LiveIndex.nodup_unclaimed _).sublist (sublist_discardIds _), fun id hwanted hleft => ?_⟩
  have hunclaimed := (sublist_discardIds _).subset hleft
  rw [LiveIndex.mem_unclaimed_claimAll hlive] at hunclaimed
  exact hunclaimed.2 (sublist_convergeIds.subset hwanted)

/-- Where everything is as wanted, and the rest may not be deleted, there is nothing to write. -/
theorem requestsFor_eq_nil {objects : List (Object σ)}
    (hlive : LiveIndex.ofObjects? objects = some live)
    (hwanted : ∀ want ∈ wants, ∃ current, live.find? want.1 = some current ∧
      current.spec = want.2.spec)
    (hkept : ∀ id, live.find? id ≠ none → id ∉ wants.map Prod.fst →
      failed.contains (Naming.domainOfNamespace id.ns) = true) :
    requestsFor failed wants live = [] := by
  rw [List.eq_nil_iff_forall_not_mem]
  intro request hmem
  rcases (mem_requestsFor hlive).1 hmem with ⟨want, hwant, hconverge⟩ | ⟨id, hfound, hnot, hdiscard⟩
  · rw [convergeRequest?_eq_none.2 (hwanted want hwant)] at hconverge
    cases hconverge
  · have hfailed := (discardRequest?_eq_some.1 hdiscard).1
    rw [hkept id hfound hnot] at hfailed
    cases hfailed

/-! ## What they do to a store -/

variable {store : Store σ ω}

/-- A listing leads from one world to another and yields a live index that answers as the store. -/
structure Lists (contract : store.Contract) (world world' : ω) (live : LiveIndex σ) : Prop where
  listed : ∃ objects, store.list world = (.ok objects, world') ∧
    LiveIndex.ofObjects? objects = some live
  find? : ∀ id, live.find? id = contract.contents world id
  sound : contract.Sound world'
  same : contract.contents world' = contract.contents world

omit [DecidableEq σ] in
theorem exists_lists (contract : store.Contract) {world : ω} (hs : contract.Sound world) :
    ∃ world' live, Lists contract world world' live := by
  obtain ⟨objects, world', hlist, hs', hsame, hmem⟩ := contract.list hs
  have hown : ∀ o ∈ objects, ∃ id, contract.contents world id = some o ∧ o.id? = some id := by
    intro o ho
    obtain ⟨id, hid⟩ := (hmem o).1 ho
    exact ⟨id, hid, contract.own_id hs hid⟩
  obtain ⟨live, hlive⟩ := LiveIndex.ofObjects?_of_named fun o ho =>
    let ⟨id, _, hid⟩ := hown o ho
    ⟨id, hid⟩
  refine ⟨world', live, ⟨objects, hlist, hlive⟩, fun id => ?_, hs', hsame⟩
  rw [LiveIndex.find?_ofObjects hlive]
  cases hfind : objects.reverse.find? fun o => o.id? == some id with
  | none =>
    cases hheld : contract.contents world id with
    | none => rfl
    | some object =>
      have hlisted := List.mem_reverse.2 ((hmem object).2 ⟨id, hheld⟩)
      exact absurd (contract.own_id hs hheld) (by simpa using List.find?_eq_none.1 hfind _ hlisted)
  | some object =>
    obtain ⟨own, hheld, hown⟩ := hown object (List.mem_reverse.1 (List.mem_of_find?_eq_some hfind))
    have hid : object.id? = some id := by simpa using List.find?_some hfind
    cases hown.symm.trans hid
    exact hheld.symm

/-- What a kind holds before and after its requests are carried out. -/
structure Settles (failed : SortedSet String) (wants : List (ObjectId × Object σ))
    (before after : Contents σ) : Prop where
  wanted : ∀ want ∈ wants, ∃ stored, after want.1 = some stored ∧ stored.spec = want.2.spec
  unwanted : ∀ id, id ∉ wants.map Prod.fst → after id =
    if failed.contains (Naming.domainOfNamespace id.ns) then before id else none

/-- A request that makes a live object the desired one succeeds, for it carries the live version. -/
theorem leaves_converge {id : ObjectId} {desired : Object σ} {request : Request σ}
    {left : Option (Object σ)} (h : convergeRequest? live id desired = some request)
    (hl : request.Leaves (live.find? id) left) :
    ∃ stored, left = some stored ∧ stored.spec = desired.spec := by
  rcases convergeRequest?_eq_some.1 h with ⟨hfound, rfl⟩ | ⟨current, hfound, _, rfl⟩
  · rw [hfound] at hl
    obtain ⟨version, rfl⟩ := hl
    exact ⟨_, rfl, rfl⟩
  · simp only [hfound, Request.Leaves, Request.outcomeOn, Object.resourceVersion_withVersion,
      if_true] at hl
    obtain ⟨version, rfl⟩ := hl
    exact ⟨_, rfl, rfl⟩

section Changes

variable {objects : List (Object σ)} {after : Contents σ}

/-- A wanted object is there afterwards: a request puts it there, or it is there already. -/
theorem wanted_of_changesAll (hlive : LiveIndex.ofObjects? objects = some live)
    (hn : (wants.map Prod.fst).Nodup)
    (h : Request.ChangesAll (requestsFor failed wants live) live.find? after)
    {want : ObjectId × Object σ} (hwant : want ∈ wants) :
    ∃ stored, after want.1 = some stored ∧ stored.spec = want.2.spec := by
  cases hconverge : convergeRequest? live want.1 want.2 with
  | some request =>
    have hleft := h.leaves request ((mem_requestsFor hlive).2 (.inl ⟨want, hwant, hconverge⟩))
    rw [id_convergeRequest? hconverge] at hleft
    exact leaves_converge hconverge hleft
  | none =>
    obtain ⟨current, hfound, hspec⟩ := convergeRequest?_eq_none.1 hconverge
    refine ⟨current, (h.others _ fun hmem => ?_).trans hfound, hspec⟩
    rcases (mem_requestIds hlive).1 hmem with ⟨desired, hdesired, hne⟩ | ⟨_, hnot, _⟩
    · have heq := List.inj_on_of_nodup_map hn hdesired hwant rfl
      obtain rfl : desired = want.2 := congrArg Prod.snd heq
      exact hne hconverge
    · exact hnot (List.mem_map_of_mem hwant)

/-- An object that nobody wants is deleted if it may be, and left alone otherwise. -/
theorem unwanted_of_changesAll (hlive : LiveIndex.ofObjects? objects = some live)
    (h : Request.ChangesAll (requestsFor failed wants live) live.find? after) {id : ObjectId}
    (hnot : id ∉ wants.map Prod.fst) : after id =
      if failed.contains (Naming.domainOfNamespace id.ns) then live.find? id else none := by
  have hnotWanted (desired : Object σ) : (id, desired) ∉ wants := fun hmem =>
    hnot (List.mem_map_of_mem hmem)
  cases hfailed : failed.contains (Naming.domainOfNamespace id.ns) with
  | true =>
    rw [if_pos rfl]
    exact h.others id (by simp [mem_requestIds hlive, hnotWanted, hfailed])
  | false =>
    rw [if_neg Bool.false_ne_true]
    cases hfound : live.find? id with
    | none => rw [h.others id (by simp [mem_requestIds hlive, hnotWanted, hfound]), hfound]
    | some current =>
      have hleft := h.leaves ⟨id, .delete⟩ ((mem_requestsFor hlive).2 (.inr ⟨id,
        by simp [hfound], hnot, discardRequest?_eq_some.2 ⟨hfailed, rfl⟩⟩))
      simpa [Request.Leaves, Request.outcomeOn, hfound] using hleft

end Changes

/-- Everything wanted is there afterwards, and of the rest only what may not be deleted. -/
theorem settles_performAll (failed : SortedSet String) {contract : store.Contract}
    {world world' : ω} (hl : Lists contract world world' live)
    (hids : ∀ want ∈ wants, want.2.id? = some want.1) (hn : (wants.map Prod.fst).Nodup) :
    contract.Sound (store.performAll (requestsFor failed wants live) world') ∧
      Settles failed wants (contract.contents world)
        (contract.contents (store.performAll (requestsFor failed wants live) world')) := by
  obtain ⟨objects, _, hlive⟩ := hl.listed
  obtain ⟨hsound, hchanges⟩ :=
    contract.performAll_spec hl.sound (addressed_requestsFor hids) (nodup_requestsFor hlive hn)
  have hfind : live.find? = contract.contents world := funext hl.find?
  rw [hl.same, ← hfind] at hchanges
  rw [← hfind]
  exact ⟨hsound, fun want hwant => wanted_of_changesAll hlive hn hchanges hwant,
    fun id hnot => unwanted_of_changesAll hlive hchanges hnot⟩

end Effect

end MeshPolicy.Pass
