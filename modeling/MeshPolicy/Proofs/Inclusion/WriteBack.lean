import Mathlib
import MeshPolicy.Proofs.Inclusion.Convergence
import MeshPolicy.Proofs.Resource.Fields
import MeshPolicy.Proofs.Store.Wire

/-! # What is written back of a config

A pass over a remote store writes the config that it has read back with another list of included
services. All that is declared is kept, and nothing else.

* `requests_run`: what a pass sends.
* `Kept`, `LosesNothing`: what a specification keeps of another one.
* `run_writes_back`: a pass keeps what is declared, and so it loses nothing from a config in which
  nothing else is written.
* `run_drops_undeclared`: what else is written is lost.
-/

namespace MeshPolicy
set_option autoImplicit false

open Json

/-! ## What is sent -/

namespace Inclusion

/-- The request that reads the config. -/
def readRequest : Http.Request where
  method := .get
  target := { path := "/apis/rbac.istio.io/v1alpha1/clusterrbacconfigs/default" }

theorem getRequest?_configId :
    Remote.getRequest? (Resource.kind Enforcement) configId = some readRequest := by
  cbv

section Sending

variable {ω : Type} {send : Transport ω} {world : ω}

/-- The server answers the request for the config with `received`, which reads as `config`. -/
structure Answers (send : Transport ω) (world : ω) (received : Json)
    (config : Object Enforcement) : Prop where
  read : decode received = some config
  answered : ∃ status body, (send readRequest world).1 = .answered status body ∧
    Http.Status.isError status = false ∧ body.value? = some received

variable {received : Json} {config : Object Enforcement}

theorem Answers.get (h : Answers send world received config) :
    (Remote.store (Remote.logging send)).get configId ([], world) =
      (.ok (some config), [readRequest], (send readRequest world).2) := by
  obtain ⟨status, body, hsend, hstatus, hbody⟩ := h.answered
  have hread : Remote.answered decode (.answered status body) = .ok config := by
    simp [Remote.answered, hstatus, hbody, h.read]
  simp only [Remote.store, Remote.exchange, getRequest?_configId, Remote.logging, hsend, hread,
    Remote.lookedUp, List.nil_append]

/-- A pass sends the request for the config, and then the write that it decides on. -/
theorem requests_run (h : Answers send world received config) (enabled : List String) :
    (run (Remote.store (Remote.logging send)) enabled ([], world)).2.1 =
      readRequest :: ((decide (some config) enabled).request?.bind Remote.wire?).toList := by
  simp only [run, h.get, carryOut]
  cases (decide (some config) enabled).request? with
  | none => rfl
  | some request => simp [Remote.log_perform]

/-- What a pass puts is what it has read, with a revised specification. -/
theorem revised_of_put (h : Answers send world received config) {enabled : List String}
    {sent : Http.Request}
    (hsent : sent ∈ (run (Remote.store (Remote.logging send)) enabled ([], world)).2.1)
    (hput : sent.method = .put) :
    ∃ spec, revised? config.spec enabled = some spec ∧
      sent.body = some (encode { config with spec }) := by
  rw [requests_run h, List.mem_cons, Option.mem_toList, Option.bind_eq_some_iff] at hsent
  rcases hsent with rfl | ⟨request, hrequest, hwire⟩
  · cases hput
  · obtain ⟨new, hreplace, hbody⟩ := Remote.replace_of_put hwire hput
    have hdecided := decided enabled (some config)
    generalize decide (some config) enabled = decision at hdecided hrequest
    cases hdecided with
    | delete =>
      cases hrequest
      cases hreplace
    | leave => cases hrequest
    | replace _ spec henabled hrevised =>
      cases hrequest
      cases hreplace
      exact ⟨spec, hrevised, hbody⟩

end Sending

/-! ## What is kept -/

/-- The mode that is read from a specification. -/
def modeIn? (spec : Json) : Option Mode := (written? Enforcement.fields "mode" spec).bind decode

/-- What stands in a member of a target of a specification. -/
def contentAt? (target name : String) (spec : Json) : Option Json :=
  (written? Enforcement.fields target spec).bind (content? Target.fields name)

/-- All declared fields but the included services hold what they held before. A mode that is not
written as its name is still the same mode. -/
structure Kept (before after : Json) : Prop where
  mode : modeIn? after = modeIn? before
  modeName : ∀ name, written? Enforcement.fields "mode" before = some (string name) →
    written? Enforcement.fields "mode" after = some (string name)
  targets : ∀ target ∈ Enforcement.targetFields, (written? Enforcement.fields target after).isSome =
    (written? Enforcement.fields target before).isSome
  members : ∀ target ∈ Enforcement.targetFields, ∀ name ∈ Target.fields,
    (target, name) ≠ ("inclusion", "services") →
    contentAt? target name after = contentAt? target name before

/-- All fields but the included services hold what they held before, declared or not. -/
structure LosesNothing (before after : Json) : Prop extends Kept before after where
  others : ∀ name, name ∉ Enforcement.fields →
    content? Enforcement.fields name after = content? Enforcement.fields name before
  otherMembers : ∀ target ∈ Enforcement.targetFields, ∀ name, name ∉ Target.fields →
    contentAt? target name after = contentAt? target name before

/-- Nothing is written in a specification but what is declared. -/
structure Plain (spec : Json) : Prop where
  fields : ∀ name, name ∉ Enforcement.fields → content? Enforcement.fields name spec = none
  members : ∀ target ∈ Enforcement.targetFields, ∀ name, name ∉ Target.fields →
    contentAt? target name spec = none

theorem plain_encode (spec : Enforcement) : Plain (encode spec) := by
  refine ⟨fun name hname => ?_, fun target htarget name hname => ?_⟩
  · rw [content?, spec.declared_encode.written? hname, Option.bind_none]
  · rw [contentAt?]
    cases hitem : written? Enforcement.fields target (encode spec) with
    | none => rfl
    | some item =>
      have hdeclared := spec.declared_encode_target htarget hitem
      rw [Option.bind_some, content?, hdeclared.written? hname, Option.bind_none]

/-- If only what is declared is written, then nothing is lost where there is nothing else. -/
theorem Kept.losesNothing_iff {before after : Json} (h : Kept before after) (hplain : Plain after) :
    LosesNothing before after ↔ Plain before := by
  constructor
  · intro hall
    refine ⟨fun name hname => ?_, fun target htarget name hname => ?_⟩
    · rw [← hall.others name hname]
      exact hplain.fields name hname
    · rw [← hall.otherMembers target htarget name hname]
      exact hplain.members target htarget name hname
  · intro hbefore
    refine ⟨h, fun name hname => ?_, fun target htarget name hname => ?_⟩
    · rw [hplain.fields name hname, hbefore.fields name hname]
    · rw [hplain.members target htarget name hname, hbefore.members target htarget name hname]

section Keeping

variable {before : Json} {spec : Enforcement}

theorem isSome_of_holdsTarget {value : Json} {name : String} {target : Option Target}
    (h : Enforcement.HoldsTarget value name target) :
    (written? Enforcement.fields name value).isSome = target.isSome := by
  cases target with
  | none =>
    have hwritten : written? Enforcement.fields name value = none := h
    rw [hwritten]
    rfl
  | some target =>
    obtain ⟨item, hwritten, _⟩ := h
    rw [hwritten]
    rfl

theorem contentAt?_of_holdsTarget {value : Json} {name : String} {target : Option Target}
    (h : Enforcement.HoldsTarget value name target) :
    contentAt? name "services" value =
        target.bind (fun target => nonempty? (texts target.services)) ∧
      contentAt? name "namespaces" value =
        target.bind (fun target => nonempty? (texts target.namespaces)) := by
  unfold contentAt?
  cases target with
  | none =>
    have hwritten : written? Enforcement.fields name value = none := h
    rw [hwritten]
    exact ⟨rfl, rfl⟩
  | some target =>
    obtain ⟨item, hwritten, hread⟩ := h
    rw [hwritten]
    exact Target.reads hread

/-- A config whose included services alone are changed is kept. -/
theorem kept_encode {target : Target} (hbefore : Enforcement.Reads before spec)
    (hmode : spec.mode = .onWithInclusion) (htarget : spec.inclusion = some target)
    (services : List String) :
    Kept before (encode { spec with inclusion := some { target with services } }) := by
  have hafter := Enforcement.reads
    (Enforcement.decode_encode { spec with inclusion := some { target with services } })
  have hafterMode := Enforcement.written?_encode_mode
    { spec with inclusion := some { target with services } }
  have hon : spec.mode ≠ .off := by
    rw [hmode]
    exact Mode.noConfusion
  obtain ⟨item, hwritten, hread⟩ := hbefore.mode hon
  refine ⟨?_, fun name hname => ?_, fun field hfield => ?_,
    fun field hfield name hname hother => ?_⟩
  · rw [modeIn?, modeIn?, hafterMode, hwritten, Option.bind_some, Option.bind_some, hread,
      Mode.decode_encode]
  · rw [hname] at hwritten
    cases hwritten
    rcases Mode.of_decode hread with hsame | hother
    · rw [hafterMode, hsame]
    · cases hother
  · simp only [Enforcement.targetFields, List.mem_cons, List.not_mem_nil, or_false] at hfield
    rcases hfield with rfl | rfl
    · rw [isSome_of_holdsTarget hafter.inclusion, isSome_of_holdsTarget hbefore.inclusion, htarget]
      rfl
    · rw [isSome_of_holdsTarget hafter.exclusion, isSome_of_holdsTarget hbefore.exclusion]
  · simp only [Enforcement.targetFields, Target.fields, List.mem_cons, List.not_mem_nil,
      or_false] at hfield hname
    rcases hfield with rfl | rfl
    · rcases hname with rfl | rfl
      · exact absurd rfl hother
      · rw [(contentAt?_of_holdsTarget hafter.inclusion).2,
          (contentAt?_of_holdsTarget hbefore.inclusion).2, htarget]
        rfl
    · have hnew := contentAt?_of_holdsTarget hafter.exclusion
      have hold := contentAt?_of_holdsTarget hbefore.exclusion
      rcases hname with rfl | rfl
      · rw [hnew.1, hold.1]
      · rw [hnew.2, hold.2]

end Keeping

/-! ## What a pass keeps -/

/-- A pass that puts a config in inclusion mode keeps all that is declared of the config it has read,
up to the included services, and loses what is not; it loses nothing only where there is nothing else.
A config in another mode is made anew. -/
theorem run_writes_back {ω : Type} {send : Transport ω} {world : ω} {received : Json}
    {config : Object Enforcement} (h : Answers send world received config) (enabled : List String) :
    ∀ sent ∈ (run (Remote.store (Remote.logging send)) enabled ([], world)).2.1,
      sent.method = .put → ∃ body before after, sent.body = some body ∧
        written? Object.fields "spec" received = some before ∧
        written? Object.fields "spec" body = some after ∧
        (config.spec.includedServices.isSome →
          Kept before after ∧ Plain after ∧ (LosesNothing before after ↔ Plain before)) ∧
        (config.spec.includedServices = none → after = encode (Enforcement.including enabled)) := by
  intro sent hsent hput
  obtain ⟨spec, hrevised, hbody⟩ := revised_of_put h hsent hput
  obtain ⟨before, hbefore, hread⟩ := Object.reads h.read rfl
  refine ⟨_, before, encode spec, hbody, hbefore, rfl, fun hmode => ?_, fun hmode => ?_⟩
  · rcases revised?_cases config.spec enabled with ⟨target, hon, htarget, hcase⟩ | ⟨hnone, _⟩
    · rw [hcase, Option.map_eq_some_iff] at hrevised
      obtain ⟨services, _, rfl⟩ := hrevised
      have hkept := kept_encode (Enforcement.reads hread) hon htarget services
      exact ⟨hkept, plain_encode _, hkept.losesNothing_iff (plain_encode _)⟩
    · rw [hnone] at hmode
      cases hmode
  · rcases revised?_cases config.spec enabled with ⟨target, hon, htarget, _⟩ | ⟨_, hcase⟩
    · rw [Enforcement.includedServices_eq_some.2 ⟨target, hon, htarget, rfl⟩] at hmode
      cases hmode
    · rw [hcase] at hrevised
      cases hrevised
      rfl

/-! ### A permissive config

The config that is read says how strictly it is enforced, in a field that is not declared. -/

namespace Permissive

def spec : Json := object [("mode", string "ON_WITH_INCLUSION"),
  ("inclusion", object [("services", texts ["old.shop.mesh"])]),
  ("enforcementMode", string "PERMISSIVE")]

def received : Json := object [("apiVersion", string "rbac.istio.io/v1alpha1"),
  ("kind", string "ClusterRbacConfig"),
  ("metadata", object [("name", string "default"), ("resourceVersion", string "7")]),
  ("spec", spec)]

def config : Object Enforcement :=
  ⟨{ name := some "default", resourceVersion := some "7" }, .including ["old.shop.mesh"]⟩

/-- A server that answers every request with the config. -/
def send : Transport Unit := fun _ world => (.answered 200 (.json received), world)

theorem answers : Answers send () received config := ⟨by cbv, 200, .json received, rfl, rfl, rfl⟩

/-- What is put in its place. -/
def put : Http.Request where
  method := .put
  target := { path := "/apis/rbac.istio.io/v1alpha1/clusterrbacconfigs/default" }
  body := some (encode { config with spec := Enforcement.including ["web.shop.mesh"] })

theorem requests : (run (Remote.store (Remote.logging send)) ["web.shop.mesh"] ([], ())).2.1 =
    [readRequest, put] := by
  have hdecide : decide (some config) ["web.shop.mesh"] =
      .replace { config with spec := Enforcement.including ["web.shop.mesh"] } := rfl
  have hwire : Remote.wire? ⟨configId, .replace
      { config with spec := Enforcement.including ["web.shop.mesh"] }⟩ = some put := by
    cbv
  rw [requests_run answers, hdecide]
  simp only [Decision.request?, Option.bind_some, hwire, Option.toList_some]

end Permissive

theorem run_writes_back_permissive :
    Permissive.put ∈
        (run (Remote.store (Remote.logging Permissive.send)) ["web.shop.mesh"] ([], ())).2.1 ∧
      ∃ body before after, Permissive.put.body = some body ∧
        written? Object.fields "spec" Permissive.received = some before ∧
        written? Object.fields "spec" body = some after ∧
        (Permissive.config.spec.includedServices.isSome →
          Kept before after ∧ Plain after ∧ (LosesNothing before after ↔ Plain before)) ∧
        (Permissive.config.spec.includedServices = none →
          after = encode (Enforcement.including ["web.shop.mesh"])) := by
  have hput : Permissive.put ∈
      (run (Remote.store (Remote.logging Permissive.send)) ["web.shop.mesh"] ([], ())).2.1 := by
    simp [Permissive.requests]
  exact ⟨hput, run_writes_back Permissive.answers ["web.shop.mesh"] Permissive.put hput rfl⟩

/-- A field that is not declared is lost, although the config is in inclusion mode. -/
theorem run_drops_undeclared :
    Answers Permissive.send () Permissive.received Permissive.config ∧
      Permissive.config.spec.includedServices = some ["old.shop.mesh"] ∧
      Permissive.put ∈
        (run (Remote.store (Remote.logging Permissive.send)) ["web.shop.mesh"] ([], ())).2.1 ∧
      ∃ body after, Permissive.put.body = some body ∧
        written? Object.fields "spec" Permissive.received = some Permissive.spec ∧
        written? Object.fields "spec" body = some after ∧
        content? Enforcement.fields "enforcementMode" Permissive.spec = some (string "PERMISSIVE") ∧
        content? Enforcement.fields "enforcementMode" after = none ∧
        ¬ LosesNothing Permissive.spec after := by
  have hbefore : content? Enforcement.fields "enforcementMode" Permissive.spec =
      some (string "PERMISSIVE") := by cbv
  have hafter : content? Enforcement.fields "enforcementMode"
      (encode (Enforcement.including ["web.shop.mesh"])) = none := by cbv
  refine ⟨Permissive.answers, rfl, by simp [Permissive.requests], _,
    encode (Enforcement.including ["web.shop.mesh"]), rfl, rfl, rfl, hbefore, hafter, fun h => ?_⟩
  have hothers := h.others "enforcementMode" (by decide)
  rw [hbefore, hafter] at hothers
  cases hothers

end Inclusion

end MeshPolicy
