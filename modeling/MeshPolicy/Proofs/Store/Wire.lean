import MeshPolicy.Proofs.Store.Remote

/-! # What a remote store sends

* `Remote.logging`: a transport that keeps what it sends.
* `log_answer`: what an operation sends. `Remote.wire?`, `log_perform`: what a write sends.
-/

namespace MeshPolicy.Remote
set_option autoImplicit false

open Json

variable {σ ω : Type}

/-- A transport that keeps the requests it sends, in the order in which they are sent. -/
def logging (send : Transport ω) : Transport (List Http.Request × ω) := fun request world =>
  let (response, after) := send request world.2
  (response, world.1 ++ [request], after)

/-- The request that a write sends, if it can be sent. -/
def wire? [Resource σ] (request : Request σ) : Option Http.Request :=
  match request.action with
  | .create new => new.id?.bind fun id => createRequest? (Resource.kind σ) id (encode new)
  | .replace new => new.id?.bind fun id => replaceRequest? (Resource.kind σ) id (encode new)
  | .delete => deleteRequest? (Resource.kind σ) request.id

theorem log_exchange {α : Type} (send : Transport ω) (request : Option Http.Request)
    (read : Json → Option α) (world : List Http.Request × ω) :
    (exchange (logging send) request read world).2.1 = world.1 ++ request.toList := by
  cases request with
  | none => simp [exchange]
  | some request => rfl

/-- An operation sends its request, if it has one, and nothing else. -/
theorem log_answer [Resource σ] (send : Transport ω) (call : StoreCall σ)
    (world : List Http.Request × ω) :
    ((store (logging send)).answer call world).2.1 = world.1 ++ (request? call).toList := by
  cases call with
  | list => exact log_exchange send _ _ world
  | get id => exact log_exchange send _ _ world
  | create new =>
    cases hid : new.id? with
    | none => simp [Store.answer, store, request?, hid]
    | some id => simp [Store.answer, store, request?, hid, log_exchange]
  | replace new =>
    cases hid : new.id? with
    | none => simp [Store.answer, store, request?, hid]
    | some id => simp [Store.answer, store, request?, hid, log_exchange]
  | delete id => exact log_exchange send _ _ world

theorem log_perform [Resource σ] (send : Transport ω) (request : Request σ)
    (world : List Http.Request × ω) :
    ((store (logging send)).perform request world).2.1 = world.1 ++ (wire? request).toList := by
  obtain ⟨id, action⟩ := request
  cases action with
  | create new => exact log_answer send (.create new) world
  | replace new => exact log_answer send (.replace new) world
  | delete => exact log_answer send (.delete id : StoreCall σ) world

/-- A `PUT` carries the object that is to be replaced. -/
theorem replace_of_put [Resource σ] {request : Request σ} {sent : Http.Request}
    (hwire : wire? request = some sent) (hput : sent.method = .put) :
    ∃ new, request.action = .replace new ∧ sent.body = some (encode new) := by
  obtain ⟨id, action⟩ := request
  cases action with
  | create new =>
    simp only [wire?, createRequest?, requestTo?, Option.bind_eq_some_iff,
      Option.map_eq_some_iff] at hwire
    obtain ⟨_, _, _, _, rfl⟩ := hwire
    cases hput
  | replace new =>
    simp only [wire?, replaceRequest?, requestTo?, Option.bind_eq_some_iff,
      Option.map_eq_some_iff] at hwire
    obtain ⟨_, _, _, _, _, _, rfl⟩ := hwire
    exact ⟨new, rfl, rfl⟩
  | delete =>
    simp only [wire?, deleteRequest?, requestTo?, Option.bind_eq_some_iff,
      Option.map_eq_some_iff] at hwire
    obtain ⟨_, _, _, _, rfl⟩ := hwire
    cases hput

end MeshPolicy.Remote
