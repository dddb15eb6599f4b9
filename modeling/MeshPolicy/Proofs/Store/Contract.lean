import MeshPolicy.Store.Disturbed

/-! # The contract of a store

What a store holds is seen as a partial map from identities to objects. A store that keeps the
contract lists what it holds, and a write changes nothing but its own identity.

* `Request.outcomeOn`, `Request.Leaves`: how a write ends and what it leaves behind, read off what
  its identity held before.
* `Store.Contract`: a store with the worlds in which it keeps to that.
* `Memory.contract`, `Disturbed.contract`: a memory of objects under their own identities keeps the
  contract, and so does a disturbed one while nothing interferes.
* `Store.performAll`: writes carried out in turn. `Contract.performAll_spec`: what they change, if
  they are for different identities.
-/

namespace MeshPolicy
set_option autoImplicit false

variable {σ ω : Type}

/-- What a store holds, by identity. -/
abbrev Contents (σ : Type) := ObjectId → Option (Object σ)

/-! ## One write -/

namespace Request

/-- The identity that a store finds in a write: that of the object, if the write carries one. -/
def target? (request : Request σ) : Option ObjectId :=
  match request.action with
  | .create object | .replace object => object.id?
  | .delete => some request.id

/-- A write is for the identity of the object that it carries. -/
def Addressed (request : Request σ) : Prop := request.target? = some request.id

/-- How a write ends, from what its identity holds. -/
def outcomeOn (request : Request σ) (held : Option (Object σ)) : WriteOutcome :=
  match request.action, held with
  | .create _, none => .ok ()
  | .create _, some _ => .error (.alreadyExists request.id)
  | .replace _, none => .error (.notFound request.id)
  | .replace object, some current =>
    if object.metadata.resourceVersion = current.metadata.resourceVersion then .ok ()
    else .error (.conflict request.id)
  | .delete, none => .error (.notFound request.id)
  | .delete, some _ => .ok ()

/-- What the identity of a write may hold afterwards. The version of a stored object is the store's
own choice. -/
def Leaves (request : Request σ) (held left : Option (Object σ)) : Prop :=
  match request.outcomeOn held, request.action with
  | .error _, _ => left = held
  | .ok _, .create object => ∃ version, left = some (object.withVersion (some version))
  | .ok _, .replace object => ∃ version, left = some (object.withVersion (some version))
  | .ok _, .delete => left = none

/-- A write changes its own identity alone. -/
structure Changes (request : Request σ) (before after : Contents σ) : Prop where
  leaves : request.Leaves (before request.id) (after request.id)
  others : ∀ id, id ≠ request.id → after id = before id

theorem Changes.of_refused {request : Request σ} {contents : Contents σ} {error : StoreError}
    (h : request.outcomeOn (contents request.id) = .error error) :
    request.Changes contents contents :=
  ⟨by simp [Leaves, h], fun _ _ => rfl⟩

section Outcome

variable {request : Request σ} {object : Object σ}

theorem outcomeOn_create (h : request.action = .create object) (held : Option (Object σ)) :
    request.outcomeOn held =
      match held with
      | none => .ok ()
      | some _ => .error (.alreadyExists request.id) := by
  unfold outcomeOn
  rw [h]
  cases held <;> rfl

theorem outcomeOn_replace (h : request.action = .replace object) (held : Option (Object σ)) :
    request.outcomeOn held =
      match held with
      | none => .error (.notFound request.id)
      | some current =>
        if object.metadata.resourceVersion = current.metadata.resourceVersion then .ok ()
        else .error (.conflict request.id) := by
  unfold outcomeOn
  rw [h]
  cases held <;> rfl

/-- A refused write changes nothing. -/
theorem Changes.eq_of_refused {before after : Contents σ} (h : request.Changes before after)
    {error : StoreError} (hrefused : request.outcomeOn (before request.id) = .error error) :
    after = before := by
  funext id
  by_cases hid : id = request.id
  · have hleaves := h.leaves
    simp only [Leaves, hrefused] at hleaves
    rw [hid, hleaves]
  · exact h.others id hid

end Outcome

end Request

/-! ## The contract -/

/-- What it means for a store to keep its contract in the worlds that are `Sound`: objects are held
under their own identities, readings change nothing, and a write ends as `outcomeOn` says and
changes what `Changes` says. -/
structure Store.Contract (store : Store σ ω) where
  Sound : ω → Prop
  contents : ω → Contents σ
  own_id : ∀ {world id object}, Sound world → contents world id = some object →
    object.id? = some id
  list : ∀ {world}, Sound world → ∃ objects world', store.list world = (.ok objects, world') ∧
    Sound world' ∧ contents world' = contents world ∧
    ∀ object, object ∈ objects ↔ ∃ id, contents world id = some object
  get : ∀ {world} id, Sound world →
    ∃ world', store.get id world = (.ok (contents world id), world') ∧
    Sound world' ∧ contents world' = contents world
  perform : ∀ {world} {request : Request σ}, Sound world → request.Addressed →
    ∃ world', store.perform request world =
        (request.outcomeOn (contents world request.id), world') ∧
      Sound world' ∧ request.Changes (contents world) (contents world')

/-! ## Memories keep it -/

namespace Memory

/-- Every object is held under its own identity and has a version. -/
def Sound (memory : Memory σ) : Prop :=
  ∀ id object, memory.get? id = some object →
    object.id? = some id ∧ ∃ version, object.metadata.resourceVersion = some version

@[simp] theorem get?_put (memory : Memory σ) (id x : ObjectId) (object : Object σ) :
    (memory.put id object).2.get? x =
      if x = id then some (memory.put id object).1 else memory.get? x :=
  SortedMap.get?_insert _ _ _ _

@[simp] theorem get?_erase (memory : Memory σ) (id x : ObjectId) :
    (memory.erase id).get? x = if x = id then none else memory.get? x :=
  SortedMap.get?_erase _ _ _

theorem put_versions (memory : Memory σ) (id : ObjectId) (object : Object σ) :
    ∃ version, (memory.put id object).1 = object.withVersion (some version) := ⟨_, rfl⟩

theorem sound_empty : Sound ({} : Memory σ) := fun _ _ h => by cases h

theorem Sound.put {memory : Memory σ} (h : memory.Sound) {id : ObjectId} {object : Object σ}
    (hid : object.id? = some id) : (memory.put id object).2.Sound := fun x o hx => by
  rw [get?_put] at hx
  split at hx
  next hxid =>
    cases hx
    exact ⟨hxid ▸ hid, _, rfl⟩
  next => exact h x o hx

theorem Sound.erase {memory : Memory σ} (h : memory.Sound) (id : ObjectId) :
    (memory.erase id).Sound := fun x o hx => by
  rw [get?_erase] at hx
  split at hx
  next => cases hx
  next => exact h x o hx

theorem Sound.seed {memory seeded : Memory σ} (h : memory.Sound) {object : Object σ}
    (hs : memory.seed object = .ok seeded) : seeded.Sound := by
  unfold Memory.seed at hs
  split at hs
  next => cases hs
  next id hid =>
    cases hs
    exact h.put hid

theorem Sound.change {memory : Memory σ} (h : memory.Sound) (id : ObjectId) (change : Change σ) :
    (memory.change id change).Sound := by
  cases change with
  | touch =>
    cases hheld : memory.get? id with
    | none =>
      simp only [Memory.change, hheld]
      exact h
    | some object =>
      simp only [Memory.change, hheld]
      exact h.put (h id object hheld).1
  | remove => exact h.erase id
  | put object =>
    cases hid : object.id? with
    | none => simpa only [Memory.change, hid] using h
    | some own =>
      simp only [Memory.change, hid]
      exact h.put hid

theorem isCurrent_iff (object : Object σ) {stored : Object σ} {version : String}
    (h : stored.metadata.resourceVersion = some version) :
    isCurrent object stored = true ↔
      object.metadata.resourceVersion = stored.metadata.resourceVersion := by
  unfold isCurrent
  rw [h]
  cases object.metadata.resourceVersion <;> simp

/-- The request is served by a memory as the contract has it. -/
def Serves (memory : Memory σ) (request : Request σ) : Prop :=
  ∃ memory', store.perform request memory = (request.outcomeOn (memory.get? request.id), memory') ∧
    memory'.Sound ∧ request.Changes memory.get? memory'.get?

theorem Serves.of_refused {memory : Memory σ} {request : Request σ} (error : StoreError)
    (h : memory.Sound) (ho : request.outcomeOn (memory.get? request.id) = .error error)
    (hp : store.perform request memory = (.error error, memory)) : memory.Serves request :=
  ⟨memory, by rw [hp, ho], h, .of_refused ho⟩

theorem serves_create {memory : Memory σ} {id : ObjectId} {object : Object σ} (h : memory.Sound)
    (hid : object.id? = some id) : memory.Serves ⟨id, .create object⟩ := by
  cases hheld : memory.get? id with
  | none =>
    refine ⟨(memory.put id object).2, ?_, h.put hid, ?_, fun x hx => by rw [get?_put, if_neg hx]⟩
    · simp only [Store.perform, store, create, hid, hheld]
      rfl
    · simpa [Request.Leaves, Request.outcomeOn, hheld] using put_versions memory id object
  | some current =>
    refine .of_refused (.alreadyExists id) h (by simp only [Request.outcomeOn, hheld]) ?_
    simp only [Store.perform, store, create, hid, hheld]
    rfl

/-- An object that carries the version of the stored one takes its place. -/
theorem replace_of_current {memory : Memory σ} {id : ObjectId} {object current : Object σ}
    {version : String} (hid : object.id? = some id) (hheld : memory.get? id = some current)
    (hversion : current.metadata.resourceVersion = some version)
    (hcurrent : object.metadata.resourceVersion = current.metadata.resourceVersion) :
    memory.replace object = (.ok (memory.put id object).1, (memory.put id object).2) := by
  simp only [replace, hid, hheld, (isCurrent_iff object hversion).2 hcurrent, if_true]

theorem serves_replace {memory : Memory σ} {id : ObjectId} {object : Object σ} (h : memory.Sound)
    (hid : object.id? = some id) : memory.Serves ⟨id, .replace object⟩ := by
  cases hheld : memory.get? id with
  | none =>
    refine .of_refused (.notFound id) h (by simp only [Request.outcomeOn, hheld]) ?_
    simp only [Store.perform, store, replace, hid, hheld]
    rfl
  | some current =>
    obtain ⟨version, hversion⟩ := (h id current hheld).2
    by_cases hv : object.metadata.resourceVersion = current.metadata.resourceVersion
    · refine ⟨(memory.put id object).2, ?_, h.put hid, ?_, fun x hx => by rw [get?_put, if_neg hx]⟩
      · simp only [Store.perform, store, replace_of_current hid hheld hversion hv,
          Request.outcomeOn, hheld, hv, if_true]
        rfl
      · simpa [Request.Leaves, Request.outcomeOn, hheld, hv] using put_versions memory id object
    · refine .of_refused (.conflict id) h (by simp only [Request.outcomeOn, hheld, hv, if_false]) ?_
      simp only [Store.perform, store, replace, hid, hheld, mt (isCurrent_iff object hversion).1 hv]
      rfl

theorem serves_delete {memory : Memory σ} {id : ObjectId} (h : memory.Sound) :
    memory.Serves ⟨id, .delete⟩ := by
  cases hheld : memory.get? id with
  | none =>
    refine .of_refused (.notFound id) h (by simp only [Request.outcomeOn, hheld]) ?_
    simp only [Store.perform, store, delete, hheld]
  | some current =>
    refine ⟨memory.erase id, ?_, h.erase id, ?_, fun x hx => by rw [get?_erase, if_neg hx]⟩
    · simp only [Store.perform, store, delete, hheld]
      rfl
    · simp [Request.Leaves, Request.outcomeOn, hheld]

theorem serves {memory : Memory σ} {request : Request σ} (h : memory.Sound)
    (ha : request.Addressed) : memory.Serves request := by
  obtain ⟨id, action⟩ := request
  cases action with
  | create object => exact serves_create h ha
  | replace object => exact serves_replace h ha
  | delete => exact serves_delete h

/-- A memory of objects under their own identities keeps the contract. -/
def contract : (store : Store σ (Memory σ)).Contract where
  Sound := Sound
  contents := get?
  own_id h hheld := (h _ _ hheld).1
  list {memory} h := ⟨_, memory, rfl, h, rfl, fun _ => SortedMap.mem_values⟩
  get {memory} _ h := ⟨memory, rfl, h, rfl⟩
  perform := serves

end Memory

/-! ## Disturbed memories keep it while nothing interferes -/

namespace Disturbed

/-- No other writer and no failure is waiting. -/
structure Calm (d : Disturbed σ) : Prop where
  races : d.races = []
  faults : d.faults = []

theorem handle_calm {α : Type} {d : Disturbed σ} (h : d.Calm) (call : Call) (id : ObjectId)
    (act : Memory σ → Except StoreError α × Memory σ) :
    handle call id act d = ((act d.memory).1, { d with memory := (act d.memory).2 }) := by
  simp [handle, race, h.races, h.faults, spend]

theorem perform_calm {d : Disturbed σ} (h : d.Calm) {request : Request σ} (ha : request.Addressed) :
    store.perform request d =
      ((Memory.store.perform request d.memory).1,
        { d with memory := (Memory.store.perform request d.memory).2 }) := by
  obtain ⟨id, action⟩ := request
  cases action with
  | create object =>
    have hid : object.id? = some id := ha
    simp only [Store.perform, store, handleObject, hid, handle_calm h, Memory.store]
  | replace object =>
    have hid : object.id? = some id := ha
    simp only [Store.perform, store, handleObject, hid, handle_calm h, Memory.store]
  | delete => exact handle_calm h .delete id (Memory.delete id)

/-- Whatever is done to a store behind the back of those who use it, its memory stays sound. -/
theorem sound_interfere {d d' : Disturbed σ} {interference : Interference σ}
    (h : d.memory.Sound) (hd : d.interfere interference = .ok d') : d'.memory.Sound := by
  cases interference with
  | seed object =>
    simp only [interfere] at hd
    cases hs : d.memory.seed object with
    | error error => simp [hs, Except.map] at hd
    | ok memory =>
      simp only [hs, Except.map, Except.ok.injEq] at hd
      subst hd
      exact h.seed hs
  | remove id =>
    cases hd
    exact h.erase id
  | fault fault =>
    cases hd
    exact h
  | race race =>
    cases hd
    exact h

/-- A disturbed memory keeps the contract while nothing interferes. -/
def contract : (store : Store σ (Disturbed σ)).Contract where
  Sound d := d.Calm ∧ d.memory.Sound
  contents d := d.memory.get?
  own_id h hheld := (h.2 _ _ hheld).1
  list {d} h := ⟨_, d, handle_calm h.1 _ _ _, h, rfl, fun _ => SortedMap.mem_values⟩
  get {d} id h := ⟨d, handle_calm h.1 _ _ _, h, rfl⟩
  perform {d request} h ha := by
    obtain ⟨memory', hp, hs, hc⟩ := Memory.serves h.2 ha
    exact ⟨{ d with memory := memory' }, by rw [perform_calm h.1 ha, hp], ⟨⟨h.1.1, h.1.2⟩, hs⟩, hc⟩

end Disturbed

/-! ## Several writes -/

def Store.performAll (store : Store σ ω) : List (Request σ) → ω → ω
  | [], world => world
  | request :: rest, world => store.performAll rest (store.perform request world).2

/-- Several writes change what each of them changes alone. -/
structure Request.ChangesAll (requests : List (Request σ)) (before after : Contents σ) : Prop where
  leaves : ∀ request ∈ requests, request.Leaves (before request.id) (after request.id)
  others : ∀ id, id ∉ requests.map Request.id → after id = before id

/-- Writes to different identities do not meet: each finds what its identity held at the start. -/
theorem Store.Contract.performAll_spec {store : Store σ ω} (contract : store.Contract)
    {requests : List (Request σ)} {world : ω} (hs : contract.Sound world)
    (ha : ∀ request ∈ requests, request.Addressed) (hn : (requests.map Request.id).Nodup) :
    contract.Sound (store.performAll requests world) ∧
      Request.ChangesAll requests (contract.contents world)
        (contract.contents (store.performAll requests world)) := by
  induction requests generalizing world with
  | nil => exact ⟨hs, by simp, fun _ _ => rfl⟩
  | cons request rest ih =>
    obtain ⟨world', hp, hs', hc⟩ := contract.perform hs (ha request (by simp))
    rw [List.map_cons, List.nodup_cons] at hn
    obtain ⟨hsound, hrest⟩ := ih hs' (fun r hr => ha r (by simp [hr])) hn.2
    have hstep : store.performAll (request :: rest) world = store.performAll rest world' := by
      rw [Store.performAll, hp]
    rw [hstep]
    refine ⟨hsound, fun r hr => ?_, fun id hid => ?_⟩
    · rcases List.mem_cons.1 hr with rfl | hr
      · rw [hrest.others _ hn.1]
        exact hc.leaves
      · have hne : r.id ≠ request.id := fun h => hn.1 (h ▸ List.mem_map_of_mem hr)
        rw [← hc.others _ hne]
        exact hrest.leaves r hr
    · rw [List.map_cons, List.mem_cons, not_or] at hid
      rw [hrest.others id hid.2, hc.others id hid.1]

end MeshPolicy
