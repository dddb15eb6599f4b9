import MeshPolicy.Proofs.Store.Contract
import MeshPolicy.Proofs.Text.Decimal

/-! # Versions

Every storing gives an object a version that was never given before. So an object that carries the
version of one that was read earlier, under the same identity, is that very object.

* `Contract.Evolves`: a world can follow on another.
* `Store.Versioned`: a store that keeps its contract and gives no version twice.
* `Versioned.Turn`: what other writers do to such a store.
* `Versioned.Pinned`: an object is the only one of its version. `Pinned.evolves`: it stays so.
* `Memory.Step`, `Memory.versioned`: what can happen to a memory, and that it is such a store.
-/

namespace MeshPolicy
set_option autoImplicit false

variable {σ ω : Type}

namespace Store

/-! ## Versions that are given once -/

/-- A later world: it is sound, no version that was given is forgotten, and an object that it holds
was there before, or has a version that was not given before. -/
structure Contract.Evolves {store : Store σ ω} (contract : store.Contract)
    (given : ω → String → Prop) (world later : ω) : Prop where
  sound : contract.Sound later
  remembers : ∀ version, given world version → given later version
  fresh : ∀ id object, contract.contents later id = some object →
    contract.contents world id = some object ∨
      ∃ version, object.metadata.resourceVersion = some version ∧ ¬ given world version

/-- A store that keeps its contract and gives no version twice. -/
structure Versioned (store : Store σ ω) extends Store.Contract store where
  /-- The versions that were given so far. -/
  given : ω → String → Prop
  versioned : ∀ {world id object}, Sound world → contents world id = some object →
    ∃ version, object.metadata.resourceVersion = some version ∧ given world version
  list_evolves : ∀ {world}, Sound world → toContract.Evolves given world (store.list world).2
  get_evolves : ∀ {world} id, Sound world → toContract.Evolves given world (store.get id world).2
  perform_evolves : ∀ {world} {request : Request σ}, Sound world → request.Addressed →
    toContract.Evolves given world (store.perform request world).2

namespace Contract.Evolves

variable {store : Store σ ω} {contract : store.Contract} {given : ω → String → Prop}
  {world later last : ω}

theorem refl (h : contract.Sound world) : contract.Evolves given world world :=
  ⟨h, fun _ hgiven => hgiven, fun _ _ hheld => .inl hheld⟩

theorem trans (h : contract.Evolves given world later) (h' : contract.Evolves given later last) :
    contract.Evolves given world last := by
  refine ⟨h'.sound, fun version hgiven => h'.remembers _ (h.remembers _ hgiven),
    fun id object hheld => ?_⟩
  rcases h'.fresh id object hheld with hheld | ⟨version, hversion, hnot⟩
  · exact h.fresh id object hheld
  · exact .inr ⟨version, hversion, fun hgiven => hnot (h.remembers _ hgiven)⟩

end Contract.Evolves

namespace Versioned

variable {store : Store σ ω} {versioned : store.Versioned}

/-- Other writers may do anything to a store that gives no version twice. -/
def Turn (versioned : store.Versioned) (turn : ω → ω) : Prop :=
  ∀ world, versioned.Sound world → versioned.Evolves versioned.given world (turn world)

/-- An object has a version that was given, and its identity holds no other object of it. -/
structure Pinned (versioned : store.Versioned) (world : ω) (id : ObjectId) (object : Object σ) :
    Prop where
  given : ∃ version, object.metadata.resourceVersion = some version ∧ versioned.given world version
  only : ∀ current, versioned.contents world id = some current →
    current.metadata.resourceVersion = object.metadata.resourceVersion → current = object

theorem Pinned.of_held {world : ω} {id : ObjectId} {object : Object σ}
    (hs : versioned.Sound world) (hheld : versioned.contents world id = some object) :
    versioned.Pinned world id object := by
  refine ⟨versioned.versioned hs hheld, fun current hcurrent _ => ?_⟩
  exact Option.some.inj (hcurrent.symm.trans hheld)

/-- An object of the same version that is found later was there all the time. -/
theorem Pinned.evolves {world later : ω} {id : ObjectId} {object : Object σ}
    (h : versioned.Pinned world id object)
    (he : versioned.Evolves versioned.given world later) : versioned.Pinned later id object := by
  obtain ⟨version, hversion, hgiven⟩ := h.given
  refine ⟨⟨version, hversion, he.remembers _ hgiven⟩, fun current hcurrent hsame => ?_⟩
  rcases he.fresh id current hcurrent with hheld | ⟨own, hown, hnot⟩
  · exact h.only current hheld hsame
  · -- A version that is not given before `later` cannot be the one that `object` has.
    have hequal : own = version := Option.some.inj (hown.symm.trans (hsame.trans hversion))
    exact absurd hgiven (hequal ▸ hnot)

end Versioned

end Store

/-! ## Memories give no version twice -/

namespace Memory

def Given (memory : Memory σ) (version : String) : Prop :=
  ∃ n ≤ memory.version, version = Text.digits n

def Numbered (memory : Memory σ) : Prop :=
  ∀ id object, memory.get? id = some object →
    ∃ version, object.metadata.resourceVersion = some version ∧ memory.Given version

/-- Everything that can happen to a memory at once. -/
inductive Step (memory : Memory σ) : Memory σ → Prop where
  | stay : Step memory memory
  | skip : Step memory { memory with version := memory.version + 1 }
  | put {id : ObjectId} {object : Object σ} (hid : object.id? = some id) :
      Step memory (memory.put id object).2
  | erase (id : ObjectId) : Step memory (memory.erase id)

section Step

variable {memory later : Memory σ}

theorem step_create (object : Object σ) : Step memory (create object memory).2 := by
  unfold create
  split
  next => exact .stay
  next id hid =>
    split
    next => exact .stay
    next => exact .put hid

theorem step_replace (object : Object σ) : Step memory (replace object memory).2 := by
  unfold replace
  split
  next => exact .stay
  next id hid =>
    split
    next => exact .stay
    next =>
      split
      next => exact .put hid
      next => exact .stay

theorem step_delete (id : ObjectId) : Step memory (delete id memory).2 := by
  unfold delete
  split
  next => exact .stay
  next => exact .erase id

theorem step_perform (request : Request σ) : Step memory (store.perform request memory).2 := by
  obtain ⟨id, action⟩ := request
  cases action with
  | create object => exact step_create object
  | replace object => exact step_replace object
  | delete => exact step_delete id

theorem step_change (h : memory.Sound) (id : ObjectId) (change : Change σ) :
    Step memory (memory.change id change) := by
  cases change with
  | touch =>
    cases hheld : memory.get? id with
    | none =>
      simp only [Memory.change, hheld]
      exact .skip
    | some object =>
      simp only [Memory.change, hheld]
      exact .put (h id object hheld).1
  | remove => exact .erase id
  | put object =>
    cases hid : object.id? with
    | none =>
      simp only [Memory.change, hid]
      exact .stay
    | some own =>
      simp only [Memory.change, hid]
      exact .put hid

/-! ## What a step keeps -/

theorem not_given_next : ¬ memory.Given (Text.digits (memory.version + 1)) := by
  intro h
  obtain ⟨n, hn, hdigits⟩ := h
  have hsame : memory.version + 1 = n := Text.digits_inj hdigits
  omega

theorem Step.given (h : Step memory later) {version : String} (hgiven : memory.Given version) :
    later.Given version := by
  obtain ⟨n, hn, rfl⟩ := hgiven
  have hcount : memory.version ≤ later.version := by
    cases h with
    | stay => exact Nat.le_refl _
    | skip => exact Nat.le_succ _
    | put hid => exact Nat.le_succ _
    | erase id => exact Nat.le_refl _
  exact ⟨n, Nat.le_trans hn hcount, rfl⟩

/-- What a memory holds after a step was there before, or has a version that the step has given. -/
theorem Step.held (h : Step memory later) {id : ObjectId} {object : Object σ}
    (hheld : later.get? id = some object) : memory.get? id = some object ∨
      ∃ version, object.metadata.resourceVersion = some version ∧ ¬ memory.Given version ∧
        later.Given version := by
  cases h with
  | stay => exact .inl hheld
  | skip => exact .inl hheld
  | put hid =>
    rw [get?_put] at hheld
    split at hheld
    · cases hheld
      exact .inr ⟨_, rfl, not_given_next, _, Nat.le_refl _, rfl⟩
    · exact .inl hheld
  | erase own =>
    rw [get?_erase] at hheld
    split at hheld
    · cases hheld
    · exact .inl hheld

theorem Step.sound (h : Step memory later) (hs : memory.Sound) : later.Sound := by
  cases h with
  | stay => exact hs
  | skip => exact hs
  | put hid => exact hs.put hid
  | erase id => exact hs.erase id

theorem Step.numbered (h : Step memory later) (hn : memory.Numbered) : later.Numbered := by
  intro id object hheld
  rcases h.held hheld with hbefore | ⟨version, hversion, _, hgiven⟩
  · obtain ⟨version, hversion, hgiven⟩ := hn id object hbefore
    exact ⟨version, hversion, h.given hgiven⟩
  · exact ⟨version, hversion, hgiven⟩

end Step

def numberedContract : (store : Store σ (Memory σ)).Contract where
  Sound memory := memory.Sound ∧ memory.Numbered
  contents := get?
  own_id h := contract.own_id h.1
  list {memory} h := ⟨_, memory, rfl, h, rfl, fun _ => SortedMap.mem_values⟩
  get {memory} _ h := ⟨memory, rfl, h, rfl⟩
  perform {memory request} h ha := by
    obtain ⟨memory', hperform, hsound, hchanges⟩ := serves h.1 ha
    have hstep : Step memory (store.perform request memory).2 := step_perform request
    rw [hperform] at hstep
    exact ⟨memory', hperform, ⟨hsound, hstep.numbered h.2⟩, hchanges⟩

theorem Step.evolves {memory later : Memory σ} (h : Step memory later)
    (hs : numberedContract.Sound memory) : numberedContract.Evolves Given memory later := by
  refine ⟨⟨h.sound hs.1, h.numbered hs.2⟩, fun _ => h.given, fun id object hheld => ?_⟩
  rcases h.held hheld with hbefore | ⟨version, hversion, hnot, _⟩
  · exact .inl hbefore
  · exact .inr ⟨version, hversion, hnot⟩

def versioned : (store : Store σ (Memory σ)).Versioned where
  toContract := numberedContract
  given := Given
  versioned h hheld := h.2 _ _ hheld
  list_evolves h := .refl h
  get_evolves _ h := .refl h
  perform_evolves h _ := (step_perform _).evolves h

def changeAll (changes : List (ObjectId × Change σ)) (memory : Memory σ) : Memory σ :=
  changes.foldl (fun memory change => memory.change change.1 change.2) memory

/-- Creates, modifications and deletions of any objects are what other writers may do. -/
theorem turn_changeAll (changes : List (ObjectId × Change σ)) :
    versioned.Turn (changeAll changes) := by
  intro memory hs
  induction changes generalizing memory with
  | nil => exact .refl hs
  | cons change rest ih =>
    have hchange := (step_change hs.1 change.1 change.2).evolves hs
    exact hchange.trans (ih _ hchange.sound)

theorem versioned_empty : versioned.Sound ({} : Memory σ) := by
  refine ⟨sound_empty, fun id object hheld => ?_⟩
  cases hheld

end Memory

end MeshPolicy
