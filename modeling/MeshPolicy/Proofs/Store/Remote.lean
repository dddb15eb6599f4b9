import MeshPolicy.Proofs.Resource.Depth
import MeshPolicy.Proofs.Resource.Lossless
import MeshPolicy.Proofs.Text.Decimal
import MeshPolicy.Store.Memory
import MeshPolicy.Store.Remote

/-! # Remote stores answer like stores

An operation of a remote store sends one request. What the API server may answer to it is fixed by
how the operation ends: with objects in JSON, or with a status object that says what went wrong. The
operation ends in just that way.

* `StoreCall`, `Store.answer`: the five operations as one.
* `Remote.IsStatus`, `IsList`, `IsSuccess`: the objects in which the server answers.
* `Remote.Renders`: the answers of the server that render the outcome of an operation.
* `answered_of_delivers`, `answered_of_refuses`: what is read from an answer.
* `Remote.ending`, `answer_eq`: an operation sends one request and goes by the answer to it.
  `ending_of_renders`: it ends as the answer renders.
* `Remote.answers_as_rendered`: an operation ends as the server has rendered it.
-/

namespace MeshPolicy
set_option autoImplicit false

/-! ## Operations -/

inductive StoreCall (σ : Type) where
  | list
  | get (id : ObjectId)
  | create (object : Object σ)
  | replace (object : Object σ)
  | delete (id : ObjectId)

namespace StoreCall

variable {σ : Type}

abbrev Answer : StoreCall σ → Type
  | list => List (Object σ)
  | get _ => Option (Object σ)
  | create _ | replace _ => Object σ
  | delete _ => Unit

/-- The identity that a write is for; none if the object has no name. -/
def target? : StoreCall σ → Option ObjectId
  | list | get _ => none
  | create object | replace object => object.id?
  | delete id => some id

end StoreCall

def Store.answer {σ ω : Type} (store : Store σ ω) :
    (call : StoreCall σ) → ω → Except StoreError call.Answer × ω
  | .list => store.list
  | .get id => store.get id
  | .create object => store.create object
  | .replace object => store.replace object
  | .delete id => store.delete id

namespace Remote

open Json

section Rendering

variable {σ : Type} [Resource σ]

def request? : StoreCall σ → Option Http.Request
  | .list => listRequest? (Resource.kind σ)
  | .get id => getRequest? (Resource.kind σ) id
  | .create new => new.id?.bind fun id => createRequest? (Resource.kind σ) id (encode new)
  | .replace new => new.id?.bind fun id => replaceRequest? (Resource.kind σ) id (encode new)
  | .delete id => deleteRequest? (Resource.kind σ) id

/-! ## What the server answers -/

/-- An answer with a value and without an error status. -/
def Delivers (value : Json) (response : Http.Response) : Prop :=
  ∃ status body, response = .answered status body ∧ Http.Status.isError status = false ∧
    body.value? = some value

def Says (members : Members) (name text : String) : Prop :=
  members.lookup name = some (string text) ∨ (members.lookup name = none ∧ text = "")

/-- A status object that says what went wrong; it may say more. -/
structure IsStatus (answer : ErrorAnswer) (members : Members) : Prop where
  once : ["status", "message", "reason", "code"].all (onceAtMost members) = true
  status : members.lookup "status" = some (string answer.status)
  message : Says members "message" answer.message
  reason : Says members "reason" answer.reason
  code : members.lookup "code" = some (number (Text.digits answer.code))
  bound : answer.code < 65536

/-- An answer with an error status and a status object. -/
def Refuses (answer : ErrorAnswer) (response : Http.Response) : Prop :=
  ∃ status body members, response = .answered status body ∧ Http.Status.isError status = true ∧
    body.value? = some (object members) ∧ IsStatus answer members

/-- A list object with the objects as its items; whatever metadata it has can be read. -/
structure IsList (objects : List (Object σ)) (members : Members) : Prop where
  once : ["metadata", "items"].all (onceAtMost members) = true
  metadata : fieldOr () listMetadata? "metadata" members = some ()
  items : members.lookup "items" = some (array (objects.map encode))

/-- A status object that reports success; whatever details it has can be read. -/
structure IsSuccess (members : Members) : Prop where
  shallow : (object members).depth ≤ maxDepth
  kind : members.reverse.lookup "kind" = some (string "Status")
  once : ["status", "code", "message", "reason", "details"].all (onceAtMost members) = true
  status : members.lookup "status" = some (string "Success")
  code : members.lookup "code" = none ∨
    ∃ code < 65536, members.lookup "code" = some (number (Text.digits code))
  message : ∃ text, Says members "message" text
  reason : ∃ text, Says members "reason" text
  details : ∃ details, optionalField details? "details" members = some details

/-- The answers in which the server renders how an operation ends. A write that is refused is refused
for the code in the status object, and among conflicts for the reason. A look-up goes by the reason
alone. -/
inductive Renders (response : Http.Response) :
    (call : StoreCall σ) → Except StoreError call.Answer → Prop where
  | listed {objects : List (Object σ)} {members : Members} (hlist : IsList objects members)
      (h : Delivers (object members) response) : Renders response .list (.ok objects)
  | unlisted {answer : ErrorAnswer} (h : Refuses answer response) :
      Renders response .list (.error (.api (.refused answer)))
  | found {id : ObjectId} {stored : Object σ} (h : Delivers (encode stored) response) :
      Renders response (.get id) (.ok (some stored))
  | absent {id : ObjectId} {answer : ErrorAnswer} (h : Refuses answer response)
      (hreason : answer.reason = "NotFound") : Renders response (.get id) (.ok none)
  | unread {id : ObjectId} {answer : ErrorAnswer} (h : Refuses answer response)
      (hreason : answer.reason ≠ "NotFound") :
      Renders response (.get id) (.error (.api (.refused answer)))
  | created {new stored : Object σ} (h : Delivers (encode stored) response) :
      Renders response (.create new) (.ok stored)
  | replaced {new stored : Object σ} (h : Delivers (encode stored) response) :
      Renders response (.replace new) (.ok stored)
  | deleted {id : ObjectId} {stored : Object σ} (h : Delivers (encode stored) response) :
      Renders response (.delete id) (.ok ())
  | succeeded {id : ObjectId} {members : Members} (hsuccess : IsSuccess members)
      (h : Delivers (object members) response) : Renders response (.delete id) (.ok ())
  | missing {call : StoreCall σ} {id : ObjectId} {answer : ErrorAnswer}
      (htarget : call.target? = some id) (h : Refuses answer response)
      (hcode : answer.code = 404) : Renders response call (.error (.notFound id))
  | taken {call : StoreCall σ} {id : ObjectId} {answer : ErrorAnswer}
      (htarget : call.target? = some id) (h : Refuses answer response) (hcode : answer.code = 409)
      (hreason : answer.reason = "AlreadyExists") :
      Renders response call (.error (.alreadyExists id))
  | outdated {call : StoreCall σ} {id : ObjectId} {answer : ErrorAnswer}
      (htarget : call.target? = some id) (h : Refuses answer response) (hcode : answer.code = 409)
      (hreason : answer.reason ≠ "AlreadyExists") : Renders response call (.error (.conflict id))
  | failed {call : StoreCall σ} {id : ObjectId} {answer : ErrorAnswer}
      (htarget : call.target? = some id) (h : Refuses answer response) (hcode : answer.code ≠ 404)
      (hcode' : answer.code ≠ 409) : Renders response call (.error (.api (.refused answer)))

end Rendering

/-! ## What is read from an answer -/

section Reading

theorem fieldOr_of_says {members : Members} {name text : String} (h : Says members name text) :
    fieldOr "" text? name members = some text := by
  unfold fieldOr
  rcases h with h | ⟨h, rfl⟩
  · rw [h]
    rfl
  · rw [h]

theorem natBelow?_digits {n bound : Nat} (h : n < bound) :
    natBelow? bound (number (Text.digits n)) = some n := by
  rw [natBelow?, Text.readDigits?_digits, Option.filter_some, if_pos (decide_eq_true h)]

theorem IsStatus.decode_eq {answer : ErrorAnswer} {members : Members} (h : IsStatus answer members) :
    decode (object members) = some answer := by
  have hrecord : record? ["status", "message", "reason", "code"] (object members) = some members :=
    if_pos h.once
  have hstatus : field text? "status" members = some answer.status := by
    rw [field, h.status]
    rfl
  have hcode : field (natBelow? 65536) "code" members = some answer.code := by
    rw [field, h.code]
    exact natBelow?_digits h.bound
  show (record? _ (object _)).bind _ = _
  rw [hrecord, Option.bind_some]
  simp only [hstatus, fieldOr_of_says h.message, fieldOr_of_says h.reason, hcode,
    Option.bind_eq_bind, Option.bind_some]

variable {α : Type} {read : Json → Option α} {response : Http.Response}

theorem answered_of_delivers {value : Json} {x : α} (h : Delivers value response)
    (hread : read value = some x) : answered read response = .ok x := by
  obtain ⟨status, body, rfl, hstatus, hbody⟩ := h
  simp [answered, hstatus, hbody, hread]

theorem answered_of_refuses {answer : ErrorAnswer} (h : Refuses answer response) :
    answered read response = .error (.refused answer) := by
  obtain ⟨status, body, members, rfl, hstatus, hbody, hstatusObject⟩ := h
  simp [answered, hstatus, errorIn, hbody, hstatusObject.decode_eq]

variable {σ : Type} [Resource σ] {members : Members}

theorem IsList.items?_eq {objects : List (Object σ)} (h : IsList objects members)
    (hread : ReadsBack id (encode : σ → Json) decode) :
    items? decode (object members) = some objects := by
  have hobjects : list? decode (array (objects.map encode)) = some objects :=
    readsBack_list .id (Object.readsBack_encode .id hread) objects
  rw [items?, if_pos h.once]
  simp only [h.metadata, h.items, hobjects, Option.bind_eq_bind, Option.bind_some]

theorem status?_of_isSuccess (h : IsSuccess members) : status? (object members) = some () := by
  have hrecord : record? ["status", "code", "message", "reason", "details"] (object members) =
      some members := if_pos h.once
  have hstatus : optionalField summary? "status" members = some (some ()) := by
    rw [optionalField, h.status]
    rfl
  obtain ⟨code, hcode⟩ : ∃ code, fieldOr 0 (natBelow? 65536) "code" members = some code := by
    rcases h.code with hnone | ⟨code, hbound, hcode⟩
    · exact ⟨0, by rw [fieldOr, hnone]⟩
    · refine ⟨code, ?_⟩
      rw [fieldOr, hcode]
      exact natBelow?_digits hbound
  obtain ⟨message, hmessage⟩ := h.message
  obtain ⟨reason, hreason⟩ := h.reason
  obtain ⟨details, hdetails⟩ := h.details
  show (record? _ (object _)).bind _ = _
  rw [hrecord, Option.bind_some]
  simp only [hstatus, hcode, fieldOr_of_says hmessage, fieldOr_of_says hreason, hdetails,
    Option.bind_eq_bind, Option.bind_some]

theorem deletion?_of_isSuccess (h : IsSuccess members) :
    deletion? σ (object members) = some () := by
  have hkind : lastMember? "kind" (object members) = some (string "Status") := h.kind
  rw [deletion?, if_neg (Nat.not_lt.2 h.shallow)]
  simp only [hkind]
  exact status?_of_isSuccess h

/-- The answer to a deletion may be the object that was deleted. -/
theorem deletion?_encode (hread : ReadsBack id (encode : σ → Json) decode)
    (hshallow : ∀ spec : σ, (encode spec).depth ≤ 126) (stored : Object σ) :
    deletion? σ (encode stored) = some () := by
  have hdepth : (encode stored).depth ≤ maxDepth :=
    stored.depth_encode (by decide) (hshallow stored.spec)
  have hkind : lastMember? "kind" (encode stored) = some (string (Resource.kind σ).name) := by
    simp [encode, lastMember?, lookup_cons_eq]
  have hstored : (decode (encode stored) : Option (Object σ)) = some stored :=
    Object.readsBack_encode .id hread stored
  rw [deletion?, if_neg (Nat.not_lt.2 hdepth), hkind]
  cases Resource.kind σ <;> simp [Kind.name, hstored]

end Reading

/-! ## Operations end as they are rendered -/

section Ending

variable {σ ω : Type} [Resource σ] {send : Transport ω} {request : Http.Request} {world : ω}

/-- What an operation makes of the answer to its request. -/
def ending : (call : StoreCall σ) → Http.Response → Except StoreError call.Answer
  | .list, response => (answered (items? decode) response).mapError .api
  | .get _, response => lookedUp (answered decode response)
  | .create new, response | .replace new, response =>
    match new.id? with
    | none => .error .unnamed
    | some id => classified id (answered decode response)
  | .delete id, response => classified id (answered (deletion? σ) response)

theorem exchange_of_some {α : Type} (read : Json → Option α) :
    exchange send (some request) read world =
      (answered read (send request world).1, (send request world).2) := rfl

/-- A store sends one request and goes by the answer to it. -/
theorem answer_eq {call : StoreCall σ} (hrequest : request? call = some request) :
    (store send).answer call world =
      (ending call (send request world).1, (send request world).2) := by
  cases call with
  | list =>
    have hsent : listRequest? (Resource.kind σ) = some request := hrequest
    simp only [Store.answer, store, hsent, exchange_of_some, ending]
  | get id =>
    have hsent : getRequest? (Resource.kind σ) id = some request := hrequest
    simp only [Store.answer, store, hsent, exchange_of_some, ending]
  | create new =>
    obtain ⟨id, hid, hsent⟩ := Option.bind_eq_some_iff.1 hrequest
    simp only [Store.answer, store, hid, hsent, exchange_of_some, ending]
  | replace new =>
    obtain ⟨id, hid, hsent⟩ := Option.bind_eq_some_iff.1 hrequest
    simp only [Store.answer, store, hid, hsent, exchange_of_some, ending]
  | delete id =>
    have hsent : deleteRequest? (Resource.kind σ) id = some request := hrequest
    simp only [Store.answer, store, hsent, exchange_of_some, ending]

/-- A write that is refused ends with the classified refusal. -/
theorem ending_of_refuses {call : StoreCall σ} {id : ObjectId} {answer : ErrorAnswer}
    {response : Http.Response} (htarget : call.target? = some id) (h : Refuses answer response) :
    ending call response = .error (.ofApi id (.refused answer)) := by
  cases call with
  | list => cases htarget
  | get => cases htarget
  | create new =>
    have hid : new.id? = some id := htarget
    simp only [ending, hid, answered_of_refuses h, classified]
  | replace new =>
    have hid : new.id? = some id := htarget
    simp only [ending, hid, answered_of_refuses h, classified]
  | delete own =>
    cases htarget
    simp only [ending, answered_of_refuses h, classified]

/-- An operation that can be sent ends as the server has rendered it. -/
theorem ending_of_renders (hread : ReadsBack id (encode : σ → Json) decode)
    (hshallow : ∀ spec : σ, (encode spec).depth ≤ 126) {call : StoreCall σ}
    (hrequest : request? call = some request) {response : Http.Response}
    {outcome : Except StoreError call.Answer} (h : Renders response call outcome) :
    ending call response = outcome := by
  have hobject : ∀ stored : Object σ, (decode (encode stored) : Option (Object σ)) = some stored :=
    Object.readsBack_encode .id hread
  cases h with
  | listed hlist h =>
    rw [ending, answered_of_delivers h (hlist.items?_eq hread)]
    rfl
  | unlisted h =>
    rw [ending, answered_of_refuses h]
    rfl
  | found h => rw [ending, answered_of_delivers h (hobject _), lookedUp]
  | absent h hreason => rw [ending, answered_of_refuses h, lookedUp, if_pos hreason]
  | unread h hreason => rw [ending, answered_of_refuses h, lookedUp, if_neg hreason]
  | created h =>
    obtain ⟨id, hid, _⟩ := Option.bind_eq_some_iff.1 hrequest
    simp only [ending, hid, answered_of_delivers h (hobject _), classified]
  | replaced h =>
    obtain ⟨id, hid, _⟩ := Option.bind_eq_some_iff.1 hrequest
    simp only [ending, hid, answered_of_delivers h (hobject _), classified]
  | deleted h =>
    rw [ending, answered_of_delivers h (deletion?_encode hread hshallow _), classified]
  | succeeded hsuccess h =>
    rw [ending, answered_of_delivers h (deletion?_of_isSuccess hsuccess), classified]
  | missing htarget h hcode => rw [ending_of_refuses htarget h, StoreError.ofApi, if_pos hcode]
  | taken htarget h hcode hreason =>
    rw [ending_of_refuses htarget h]
    simp [StoreError.ofApi, hcode, hreason]
  | outdated htarget h hcode hreason =>
    rw [ending_of_refuses htarget h]
    simp [StoreError.ofApi, hcode, hreason]
  | failed htarget h hcode hcode' =>
    rw [ending_of_refuses htarget h]
    simp [StoreError.ofApi, hcode, hcode']

theorem answer_of_renders (hread : ReadsBack id (encode : σ → Json) decode)
    (hshallow : ∀ spec : σ, (encode spec).depth ≤ 126) {call : StoreCall σ}
    (hrequest : request? call = some request) {outcome : Except StoreError call.Answer}
    (h : Renders (send request world).1 call outcome) :
    (store send).answer call world = (outcome, (send request world).2) := by
  rw [answer_eq hrequest, ending_of_renders hread hshallow hrequest h]

end Ending

/-! ## Every answer of a memory can be rendered -/

def delivery (value : Json) : Http.Response := .answered 200 (.json value)

theorem delivers_delivery (value : Json) : Delivers value (delivery value) :=
  ⟨200, .json value, rfl, rfl, rfl⟩

def refusal (answer : ErrorAnswer) : Http.Response := .answered answer.code (.json (encode answer))

theorem refuses_refusal {answer : ErrorAnswer} (h : Http.Status.isError answer.code = true) :
    Refuses answer (refusal answer) := by
  have hbound : answer.code < 600 := by
    simp only [Http.Status.isError, Bool.and_eq_true, decide_eq_true_eq] at h
    exact h.2
  exact ⟨_, _, _, rfl, h, rfl,
    { once := rfl, status := rfl, message := .inl rfl, reason := .inl rfl, code := rfl,
      bound := by omega }⟩

def missingAnswer : ErrorAnswer :=
  { status := "Failure", message := "not found", reason := "NotFound", code := 404 }

def takenAnswer : ErrorAnswer :=
  { status := "Failure", message := "already exists", reason := "AlreadyExists", code := 409 }

def outdatedAnswer : ErrorAnswer :=
  { status := "Failure", message := "modified", reason := "Conflict", code := 409 }

theorem exists_renders {σ : Type} [Resource σ] (memory : Memory σ) {call : StoreCall σ}
    {request : Http.Request} (hrequest : request? call = some request) :
    ∃ response, Renders response call (Memory.store.answer call memory).1 := by
  have hmissing : Refuses missingAnswer (refusal missingAnswer) := refuses_refusal rfl
  have htaken : Refuses takenAnswer (refusal takenAnswer) := refuses_refusal rfl
  have houtdated : Refuses outdatedAnswer (refusal outdatedAnswer) := refuses_refusal rfl
  cases call with
  | list =>
    have hlist : IsList memory.list [("items", array (memory.list.map encode))] :=
      { once := rfl, metadata := rfl, items := rfl }
    exact ⟨_, .listed hlist (delivers_delivery _)⟩
  | get id =>
    simp only [Store.answer, Memory.store]
    cases memory.get? id with
    | none => exact ⟨_, .absent hmissing rfl⟩
    | some stored => exact ⟨_, .found (delivers_delivery _)⟩
  | create new =>
    obtain ⟨id, hid, _⟩ := Option.bind_eq_some_iff.1 hrequest
    simp only [Store.answer, Memory.store, Memory.create, hid]
    cases memory.get? id with
    | none => exact ⟨_, .created (delivers_delivery _)⟩
    | some => exact ⟨_, .taken hid htaken rfl rfl⟩
  | replace new =>
    obtain ⟨id, hid, _⟩ := Option.bind_eq_some_iff.1 hrequest
    simp only [Store.answer, Memory.store, Memory.replace, hid]
    cases memory.get? id with
    | none => exact ⟨_, .missing hid hmissing rfl⟩
    | some stored =>
      by_cases hcurrent : Memory.isCurrent new stored
      · simp only [hcurrent, if_true]
        exact ⟨_, .replaced (delivers_delivery _)⟩
      · simp only [hcurrent]
        exact ⟨_, .outdated hid houtdated rfl (by decide)⟩
  | delete id =>
    simp only [Store.answer, Memory.store, Memory.delete]
    cases memory.get? id with
    | none => exact ⟨_, .missing rfl hmissing rfl⟩
    | some stored => exact ⟨_, .deleted (delivers_delivery (encode stored))⟩

end Remote

/-! ## All kinds -/

/-- What an object of a kind specifies. -/
abbrev Kind.Spec : Kind → Type
  | serviceRole => ServiceRole
  | roleBinding => RoleBinding
  | enforcement => Enforcement
  | signedDomain => SignedDomain

instance : (kind : Kind) → Resource kind.Spec
  | .serviceRole => inferInstanceAs (Resource ServiceRole)
  | .roleBinding => inferInstanceAs (Resource RoleBinding)
  | .enforcement => inferInstanceAs (Resource Enforcement)
  | .signedDomain => inferInstanceAs (Resource SignedDomain)

theorem Kind.readsBack_encode (kind : Kind) :
    Json.ReadsBack id (encode : kind.Spec → Json) decode := by
  cases kind with
  | serviceRole => exact ServiceRole.readsBack_encode .id
  | roleBinding => exact RoleBinding.readsBack_encode .id
  | enforcement => exact Enforcement.readsBack_encode .id
  | signedDomain => exact SignedDomain.readsBack_encode .id

theorem Kind.depth_encode (kind : Kind) (spec : kind.Spec) : (encode spec).depth ≤ 126 := by
  cases kind with
  | serviceRole => exact Nat.le_trans (ServiceRole.depth_encode spec) (by decide)
  | roleBinding => exact Nat.le_trans (RoleBinding.depth_encode spec) (by decide)
  | enforcement => exact Nat.le_trans (Enforcement.depth_encode spec) (by decide)
  | signedDomain => exact Nat.le_trans (SignedDomain.depth_encode spec) (by decide)

namespace Remote

/-- For every kind and every operation that can be sent: if the server answers the request in a
rendering of an outcome, the operation ends with that outcome and has sent nothing else. A failure
that is not classified may be retried. All outcomes of a memory can be rendered, and so a remote store
answers what a memory answers. -/
theorem answers_as_rendered {ω : Type} (kind : Kind) (send : Transport ω)
    (call : StoreCall kind.Spec) {request : Http.Request} (hrequest : request? call = some request)
    (world : ω) :
    (∀ outcome, Renders (send request world).1 call outcome →
      (store send).answer call world = (outcome, (send request world).2)) ∧
    (∀ error, ((store send).answer call world).1 = .error (.api error) →
      StoreError.isRetryable (.api error) = true) ∧
    ∀ memory : Memory kind.Spec,
      (∃ response, Renders response call (Memory.store.answer call memory).1) ∧
      (Renders (send request world).1 call (Memory.store.answer call memory).1 →
        ((store send).answer call world).1 = (Memory.store.answer call memory).1) := by
  have hends : ∀ outcome, Renders (send request world).1 call outcome →
      (store send).answer call world = (outcome, (send request world).2) := fun outcome h =>
    answer_of_renders kind.readsBack_encode kind.depth_encode hrequest h
  refine ⟨hends, fun _ _ => rfl, fun memory => ⟨exists_renders memory hrequest, fun h => ?_⟩⟩
  rw [hends _ h]

/-! ### A config that is missing

Asked for a config that is not there, the server says so: with the code 404 and a reason, or with the
code alone. -/

namespace MissingConfig

open Json

def call : StoreCall (Kind.Spec .enforcement) := .get ⟨"", Enforcement.defaultName⟩

def deletion : StoreCall (Kind.Spec .enforcement) := .delete ⟨"", Enforcement.defaultName⟩

theorem exists_request : ∃ request, request? call = some request :=
  Option.isSome_iff_exists.1 (by decide +kernel)

theorem exists_deletion : ∃ request, request? deletion = some request :=
  Option.isSome_iff_exists.1 (by decide +kernel)

def sendReason : Transport Unit := fun _ world => (refusal missingAnswer, world)

def codeAlone : ErrorAnswer where
  status := "Failure"
  message := "clusterrbacconfigs.rbac.istio.io \"default\" not found"
  reason := ""
  code := 404

def members : Members :=
  [("kind", string "Status"), ("apiVersion", string "v1"), ("status", string codeAlone.status),
    ("message", string codeAlone.message), ("code", number "404")]

def sendCode : Transport Unit := fun _ world => (.answered 404 (.json (object members)), world)

theorem refuses_codeAlone (request : Http.Request) : Refuses codeAlone (sendCode request ()).1 := by
  have hdigits : "404" = Text.digits 404 := by decide +kernel
  exact ⟨_, _, members, rfl, rfl, rfl,
    { once := by decide, status := rfl, message := .inl rfl, reason := .inr ⟨rfl, rfl⟩,
      code := congrArg (fun text => some (number text)) hdigits, bound := by decide }⟩

end MissingConfig

theorem answers_as_rendered_missing :
    ∃ request, request? MissingConfig.call = some request ∧
      Renders (MissingConfig.sendReason request ()).1 MissingConfig.call (.ok none) ∧
      (store MissingConfig.sendReason).answer MissingConfig.call () = (.ok none, ()) := by
  obtain ⟨request, hrequest⟩ := MissingConfig.exists_request
  have hrenders : Renders (MissingConfig.sendReason request ()).1 MissingConfig.call (.ok none) :=
    .absent (refuses_refusal rfl) rfl
  obtain ⟨hends, _⟩ :=
    answers_as_rendered .enforcement MissingConfig.sendReason MissingConfig.call hrequest ()
  exact ⟨request, hrequest, hrenders, hends _ hrenders⟩

/-- A look-up passes over the code 404 if no reason stands beside it. It fails, where a deletion goes
by the code and finds the config missing. -/
theorem get_passes_over_code :
    MissingConfig.codeAlone.code = 404 ∧
    (∀ request, Refuses MissingConfig.codeAlone (MissingConfig.sendCode request ()).1) ∧
    (store MissingConfig.sendCode).answer MissingConfig.call () =
      (.error (.api (.refused MissingConfig.codeAlone)), ()) ∧
    (store MissingConfig.sendCode).answer MissingConfig.deletion () =
      (.error (.notFound ⟨"", Enforcement.defaultName⟩), ()) := by
  obtain ⟨request, hrequest⟩ := MissingConfig.exists_request
  obtain ⟨deletion, hdeletion⟩ := MissingConfig.exists_deletion
  have hread := Kind.readsBack_encode .enforcement
  have hdepth := Kind.depth_encode .enforcement
  refine ⟨rfl, MissingConfig.refuses_codeAlone, ?_, ?_⟩
  · exact answer_of_renders hread hdepth hrequest
      (.unread (MissingConfig.refuses_codeAlone request) (by decide))
  · exact answer_of_renders hread hdepth hdeletion
      (.missing rfl (MissingConfig.refuses_codeAlone deletion) rfl)

end Remote

end MeshPolicy
