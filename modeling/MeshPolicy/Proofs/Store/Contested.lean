import MeshPolicy.Proofs.Store.Versions

/-! # Contested stores

Other writers take a turn before every call to a store, in which they may change it as they like.

* `Event`, `Contested`, `Store.contested`: such a store, which remembers how its calls went.
* `Read`: what a history has told about objects.
* `Guarded`, `NothingLost`: no write of a history overwrites what its writer has not read.
* `Based`: a replacement is based on the object that was read under its identity.
* `Keeps`: the invariant of a contested store. `Keeps.list`, `Keeps.get`, `Keeps.perform`,
  `Keeps.performAll`: calls keep it, if their writes are based.
* `Contest`: a store with its writers. `list_initial`, `get_initial`: what a pass reads first.
-/

namespace MeshPolicy
set_option autoImplicit false

variable {σ ω : Type}

namespace Contested

/-! ## Histories -/

structure Write (σ ω : Type) where
  action : Action σ
  /-- The identity that the store finds in the write. -/
  target : Option ObjectId
  found : ω
  outcome : WriteOutcome
  left : ω

inductive Event (σ ω : Type) where
  | listed (answer : Except StoreError (List (Object σ)))
  | got (id : ObjectId) (answer : Except StoreError (Option (Object σ)))
  | wrote (write : Write σ ω)

/-- The event tells that there is this object. -/
def Event.Tells (object : Object σ) : Event σ ω → Prop
  | listed (.ok objects) => object ∈ objects
  | got _ (.ok answer) => answer = some object
  | _ => False

def Read (history : List (Event σ ω)) (object : Object σ) : Prop :=
  ∃ event ∈ history, event.Tells object

/-- A replacement is accepted if it finds what was read, and a create if it finds nothing. All others
are refused for what they find, and leave it as it is. -/
structure Guarded (contents : ω → Contents σ) (before : List (Event σ ω)) (write : Write σ ω) :
    Prop where
  replace : ∀ object, write.action = .replace object → ∃ id, write.target = some id ∧
    match contents write.found id with
    | none => write.outcome = .error (.notFound id)
    | some current => (Read before current ∧ write.outcome = .ok ()) ∨
        (¬ Read before current ∧ write.outcome = .error (.conflict id))
  create : ∀ object, write.action = .create object → ∃ id, write.target = some id ∧
    match contents write.found id with
    | none => write.outcome = .ok ()
    | some _ => write.outcome = .error (.alreadyExists id)
  refused : ∀ error, write.outcome = .error error → contents write.left = contents write.found

/-- Every write of a history, the latest event first, is guarded by the events before it. -/
def NothingLost (contents : ω → Contents σ) (history : List (Event σ ω)) : Prop :=
  ∀ write before, (.wrote write :: before) <:+ history → Guarded contents before write

theorem NothingLost.nil {contents : ω → Contents σ} : NothingLost contents [] := by
  intro write before h
  cases List.suffix_nil.1 h

theorem NothingLost.cons {contents : ω → Contents σ} {history : List (Event σ ω)}
    {event : Event σ ω} (h : NothingLost contents history)
    (hevent : ∀ write, event = .wrote write → Guarded contents history write) :
    NothingLost contents (event :: history) := by
  intro write before hsuffix
  rcases List.suffix_cons_iff.1 hsuffix with heq | hsuffix
  · cases heq
    exact hevent write rfl
  · exact h write before hsuffix

end Contested

/-! ## Stores with other writers -/

structure Contested (σ ω : Type) where
  world : ω
  /-- How the calls before went, the latest first. -/
  history : List (Contested.Event σ ω) := []

namespace Contested

/-- The world in which the next call finds the store, after the turn of the other writers. -/
def next (turns : Nat → ω → ω) (c : Contested σ ω) : ω := turns c.history.length c.world

end Contested

/-- A store at which other writers take a turn before every call. -/
def Store.contested (store : Store σ ω) (turns : Nat → ω → ω) : Store σ (Contested σ ω) where
  list c :=
    let (answer, left) := store.list (c.next turns)
    (answer, ⟨left, .listed answer :: c.history⟩)
  get id c :=
    let (answer, left) := store.get id (c.next turns)
    (answer, ⟨left, .got id answer :: c.history⟩)
  create object c :=
    let found := c.next turns
    let (answer, left) := store.create object found
    let outcome := answer.map fun _ => ()
    (answer, ⟨left, .wrote ⟨.create object, object.id?, found, outcome, left⟩ :: c.history⟩)
  replace object c :=
    let found := c.next turns
    let (answer, left) := store.replace object found
    let outcome := answer.map fun _ => ()
    (answer, ⟨left, .wrote ⟨.replace object, object.id?, found, outcome, left⟩ :: c.history⟩)
  delete id c :=
    let found := c.next turns
    let (outcome, left) := store.delete id found
    (outcome, ⟨left, .wrote ⟨.delete, some id, found, outcome, left⟩ :: c.history⟩)

namespace Contested

theorem perform_contested (store : Store σ ω) (turns : Nat → ω → ω) (request : Request σ)
    (c : Contested σ ω) :
    (store.contested turns).perform request c =
      let (outcome, left) := store.perform request (c.next turns)
      (outcome, ⟨left, .wrote ⟨request.action, request.target?, c.next turns, outcome, left⟩ ::
        c.history⟩) := by
  obtain ⟨id, action⟩ := request
  cases action <;> rfl

/-! ## What requests are based on -/

theorem read_cons_wrote {history : List (Event σ ω)} {write : Write σ ω} {object : Object σ} :
    Read (.wrote write :: history) object ↔ Read history object := by
  simp only [Read, List.mem_cons, exists_eq_or_imp]
  exact or_iff_right fun htells => nomatch htells

/-- A replacement carries the version of the one object that was read under its identity. -/
structure Based (history : List (Event σ ω)) (request : Request σ) : Prop where
  addressed : request.Addressed
  version : ∀ object, request.action = .replace object →
    ∃ current, object.metadata.resourceVersion = current.metadata.resourceVersion ∧
      ∀ other, other = current ↔ Read history other ∧ other.id? = some request.id

theorem Based.wrote {history : List (Event σ ω)} {request : Request σ} (h : Based history request)
    (write : Write σ ω) : Based (.wrote write :: history) request := by
  refine ⟨h.addressed, fun object haction => ?_⟩
  obtain ⟨current, hversion, hread⟩ := h.version object haction
  exact ⟨current, hversion, fun other => (hread other).trans (and_congr_left' read_cons_wrote.symm)⟩

/-- A history has told of some objects, no two of one identity. -/
structure Told (history : List (Event σ ω)) (objects : List (Object σ)) : Prop where
  read : ∀ object, Read history object ↔ object ∈ objects
  unique : ∀ {id object other}, object ∈ objects → object.id? = some id → other ∈ objects →
    other.id? = some id → other = object

theorem Told.based {history : List (Event σ ω)} {objects : List (Object σ)}
    (h : Told history objects) {request : Request σ} (ha : request.Addressed)
    (hversion : ∀ object, request.action = .replace object → ∃ current ∈ objects,
      current.id? = some request.id ∧
        object.metadata.resourceVersion = current.metadata.resourceVersion) :
    Based history request := by
  refine ⟨ha, fun object haction => ?_⟩
  obtain ⟨current, hmem, hid, hsame⟩ := hversion object haction
  refine ⟨current, hsame, fun other => ⟨?_, fun hother => ?_⟩⟩
  · rintro rfl
    exact ⟨(h.read _).2 hmem, hid⟩
  · exact h.unique hmem hid ((h.read other).1 hother.1) hother.2

/-! ## The invariant -/

section Keeps

variable {store : Store σ ω} {versioned : store.Versioned}

def Knows (versioned : store.Versioned) (history : List (Event σ ω)) (world : ω) : Prop :=
  ∀ object, Read history object → ∃ id, object.id? = some id ∧ versioned.Pinned world id object

theorem Knows.evolves {history : List (Event σ ω)} {world later : ω}
    (h : Knows versioned history world) (he : versioned.Evolves versioned.given world later) :
    Knows versioned history later := by
  intro object hread
  obtain ⟨id, hid, hpinned⟩ := h object hread
  exact ⟨id, hid, hpinned.evolves he⟩

theorem Knows.cons {history : List (Event σ ω)} {event : Event σ ω} {world : ω}
    (h : Knows versioned history world)
    (hevent : ∀ object, event.Tells object →
      ∃ id, object.id? = some id ∧ versioned.Pinned world id object) :
    Knows versioned (event :: history) world := by
  intro object hread
  obtain ⟨own, hmem, htells⟩ := hread
  rcases List.mem_cons.1 hmem with rfl | hmem
  · exact hevent object htells
  · exact h object ⟨own, hmem, htells⟩

structure Keeps (versioned : store.Versioned) (c : Contested σ ω) : Prop where
  sound : versioned.Sound c.world
  knows : Knows versioned c.history c.world
  lossless : NothingLost versioned.contents c.history

/-- What a replacement finds was read if and only if it has the version that the replacement
carries. -/
theorem Based.read_iff {before : List (Event σ ω)} {found : ω} {request : Request σ}
    (hb : Based before request) (hs : versioned.Sound found) (hk : Knows versioned before found)
    {object held : Object σ} (haction : request.action = .replace object)
    (hheld : versioned.contents found request.id = some held) :
    Read before held ↔ object.metadata.resourceVersion = held.metadata.resourceVersion := by
  obtain ⟨current, hversion, hread⟩ := hb.version object haction
  obtain ⟨hcurrent, hid⟩ := (hread current).1 rfl
  constructor
  · intro hheldRead
    obtain rfl : held = current := (hread held).2 ⟨hheldRead, versioned.own_id hs hheld⟩
    exact hversion
  · intro hsame
    obtain ⟨own, hown, hpinned⟩ := hk current hcurrent
    obtain rfl : own = request.id := Option.some.inj (hown.symm.trans hid)
    obtain rfl : held = current := hpinned.only held hheld (hsame.symm.trans hversion)
    exact hcurrent

theorem guarded_perform {before : List (Event σ ω)} {found left : ω} {request : Request σ}
    {outcome : WriteOutcome} (hs : versioned.Sound found) (hk : Knows versioned before found)
    (hb : Based before request) (hperform : store.perform request found = (outcome, left)) :
    Guarded versioned.contents before
      ⟨request.action, request.target?, found, outcome, left⟩ := by
  -- The outcome is the one that the contract gives for what the identity holds.
  obtain ⟨world', hserved, _, hchanges⟩ := versioned.perform hs hb.addressed
  rw [hperform] at hserved
  obtain ⟨rfl, rfl⟩ := Prod.mk.inj hserved
  have htarget : request.target? = some request.id := hb.addressed
  refine ⟨fun object haction => ⟨_, htarget, ?_⟩, fun object haction => ⟨_, htarget, ?_⟩,
    fun error herror => hchanges.eq_of_refused herror⟩
  · simp only [Request.outcomeOn_replace haction]
    cases hheld : versioned.contents found request.id with
    | none => rfl
    | some held =>
      have hread := hb.read_iff hs hk haction hheld
      by_cases hversion : object.metadata.resourceVersion = held.metadata.resourceVersion
      · exact .inl ⟨hread.2 hversion, if_pos hversion⟩
      · exact .inr ⟨mt hread.1 hversion, if_neg hversion⟩
  · simp only [Request.outcomeOn_create haction]
    cases versioned.contents found request.id <;> rfl

/-! ## Calls keep it -/

variable {turns : Nat → ω → ω} {c : Contested σ ω}

theorem Keeps.next (h : Keeps versioned c) (hturns : ∀ n, versioned.Turn (turns n)) :
    versioned.Sound (c.next turns) ∧ Knows versioned c.history (c.next turns) := by
  have hevolves := hturns c.history.length c.world h.sound
  exact ⟨hevolves.sound, h.knows.evolves hevolves⟩

/-- A call that only reads tells of what the store holds after the turn of the other writers. -/
theorem Keeps.cons (h : Keeps versioned c) (hturns : ∀ n, versioned.Turn (turns n))
    {event : Event σ ω} {left : ω} (hread : ∀ write, event ≠ .wrote write)
    (htells : ∀ object, event.Tells object →
      ∃ id, versioned.contents (c.next turns) id = some object)
    (hevolves : versioned.Evolves versioned.given (c.next turns) left) :
    Keeps versioned ⟨left, event :: c.history⟩ := by
  obtain ⟨hsound, hknows⟩ := h.next hturns
  refine ⟨hevolves.sound, Knows.evolves (hknows.cons fun object htold => ?_) hevolves,
    h.lossless.cons fun write heq => absurd heq (hread write)⟩
  obtain ⟨id, hheld⟩ := htells object htold
  exact ⟨id, versioned.own_id hsound hheld, .of_held hsound hheld⟩

theorem Keeps.list (h : Keeps versioned c) (hturns : ∀ n, versioned.Turn (turns n)) :
    ∃ objects left, (store.contested turns).list c =
        (.ok objects, ⟨left, .listed (.ok objects) :: c.history⟩) ∧
      Keeps versioned ⟨left, .listed (.ok objects) :: c.history⟩ ∧
      ∀ object, object ∈ objects ↔ ∃ id, versioned.contents (c.next turns) id = some object := by
  obtain ⟨hsound, _⟩ := h.next hturns
  obtain ⟨objects, left, hlist, _, _, hmem⟩ := versioned.list hsound
  have hevolves := versioned.list_evolves hsound
  rw [hlist] at hevolves
  refine ⟨objects, left, by simp only [Store.contested, hlist], ?_, hmem⟩
  exact h.cons hturns (fun _ heq => nomatch heq) (fun object => (hmem object).1) hevolves

theorem Keeps.get (h : Keeps versioned c) (hturns : ∀ n, versioned.Turn (turns n))
    (id : ObjectId) :
    ∃ left, (store.contested turns).get id c = (.ok (versioned.contents (c.next turns) id),
        ⟨left, .got id (.ok (versioned.contents (c.next turns) id)) :: c.history⟩) ∧
      Keeps versioned
        ⟨left, .got id (.ok (versioned.contents (c.next turns) id)) :: c.history⟩ := by
  obtain ⟨hsound, _⟩ := h.next hturns
  obtain ⟨left, hget, _⟩ := versioned.get id hsound
  have hevolves := versioned.get_evolves id hsound
  rw [hget] at hevolves
  refine ⟨left, by simp only [Store.contested, hget], ?_⟩
  exact h.cons hturns (fun _ heq => nomatch heq) (fun object htold => ⟨id, htold⟩) hevolves

theorem Keeps.perform (h : Keeps versioned c) (hturns : ∀ n, versioned.Turn (turns n))
    {request : Request σ} (hb : Based c.history request) :
    Keeps versioned ((store.contested turns).perform request c).2 := by
  obtain ⟨hsound, hknows⟩ := h.next hturns
  have hevolves := versioned.perform_evolves hsound hb.addressed
  rcases hperform : store.perform request (c.next turns) with ⟨outcome, left⟩
  rw [hperform] at hevolves
  simp only [perform_contested, hperform]
  refine ⟨hevolves.sound, (hknows.evolves hevolves).cons ?_, h.lossless.cons ?_⟩
  · intro object htells
    cases htells
  · intro write heq
    cases heq
    exact guarded_perform hsound hknows hb hperform

/-- Requests that are based when the first of them is sent lose nothing. -/
theorem Keeps.performAll (hturns : ∀ n, versioned.Turn (turns n)) {requests : List (Request σ)}
    (h : Keeps versioned c) (hb : ∀ request ∈ requests, Based c.history request) :
    Keeps versioned ((store.contested turns).performAll requests c) := by
  induction requests generalizing c with
  | nil => exact h
  | cons request rest ih =>
    rw [Store.performAll]
    refine ih (h.perform hturns (hb request List.mem_cons_self)) fun own hown => ?_
    have hbased := hb own (List.mem_cons_of_mem _ hown)
    rw [perform_contested]
    exact hbased.wrote _

end Keeps

end Contested

/-! ## Contests -/

open Contested

/-- A store that gives no version twice, what other writers do to it before each call, and the world
that they start from. -/
structure Contest (σ ω : Type) where
  store : Store σ ω
  versioned : store.Versioned
  turns : Nat → ω → ω
  turn : ∀ n, versioned.Turn (turns n)
  start : ω
  sound : versioned.Sound start

namespace Contest

def contested (contest : Contest σ ω) : Store σ (Contested σ ω) :=
  contest.store.contested contest.turns

def initial (contest : Contest σ ω) : Contested σ ω := ⟨contest.start, []⟩

def Lossless (contest : Contest σ ω) (c : Contested σ ω) : Prop :=
  NothingLost contest.versioned.contents c.history

theorem keeps_initial (contest : Contest σ ω) : Keeps contest.versioned contest.initial where
  sound := contest.sound
  knows _ hread := by
    obtain ⟨_, hmem, _⟩ := hread
    cases hmem
  lossless := .nil

/-- A pass that lists first knows the objects of its listing. -/
theorem list_initial (contest : Contest σ ω) :
    ∃ objects listed, contest.contested.list contest.initial = (.ok objects, listed) ∧
      Keeps contest.versioned listed ∧ Told listed.history objects ∧
      ∀ object ∈ objects, ∃ id, object.id? = some id := by
  obtain ⟨hsound, _⟩ := contest.keeps_initial.next contest.turn
  obtain ⟨objects, left, hlist, hkeeps, hmem⟩ := contest.keeps_initial.list contest.turn
  have hown : ∀ object ∈ objects, ∃ id, object.id? = some id ∧
      contest.versioned.contents (contest.initial.next contest.turns) id = some object := by
    intro object hobject
    obtain ⟨id, hheld⟩ := (hmem object).1 hobject
    exact ⟨id, contest.versioned.own_id hsound hheld, hheld⟩
  refine ⟨objects, _, hlist, hkeeps, ⟨fun object => ?_, ?_⟩,
    fun object hobject => (hown object hobject).imp fun _ => And.left⟩
  · simp [Read, initial, Event.Tells]
  · intro id object other hobject hid hother hid'
    obtain ⟨own, hown₁, hheld⟩ := hown object hobject
    obtain ⟨own', hown₂, hheld'⟩ := hown other hother
    obtain rfl : own = id := Option.some.inj (hown₁.symm.trans hid)
    obtain rfl : own' = own := Option.some.inj (hown₂.symm.trans hid')
    exact Option.some.inj (hheld'.symm.trans hheld)

/-- A pass that gets an object first knows that one. -/
theorem get_initial (contest : Contest σ ω) (id : ObjectId) :
    ∃ current got, contest.contested.get id contest.initial = (.ok current, got) ∧
      Keeps contest.versioned got ∧ Told got.history current.toList ∧
      ∀ object, current = some object → object.id? = some id := by
  obtain ⟨hsound, _⟩ := contest.keeps_initial.next contest.turn
  obtain ⟨left, hget, hkeeps⟩ := contest.keeps_initial.get contest.turn id
  refine ⟨_, _, hget, hkeeps, ⟨fun object => ?_, ?_⟩,
    fun object hheld => contest.versioned.own_id hsound hheld⟩
  · simp [Read, initial, Event.Tells]
  · intro own object other hobject _ hother _
    rw [Option.mem_toList] at hobject hother
    exact Option.some.inj (hother.symm.trans hobject)

/-- A memory with a past, whose other writers create, modify and delete as a schedule says. -/
def ofMemory (past : List (ObjectId × Change σ)) (schedule : Nat → List (ObjectId × Change σ)) :
    Contest σ (Memory σ) where
  store := Memory.store
  versioned := Memory.versioned
  turns n := Memory.changeAll (schedule n)
  turn n := Memory.turn_changeAll (schedule n)
  start := Memory.changeAll past {}
  sound := (Memory.turn_changeAll past {} Memory.versioned_empty).sound

end Contest

end MeshPolicy
