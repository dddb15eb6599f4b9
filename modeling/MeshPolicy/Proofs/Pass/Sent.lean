import MeshPolicy.Proofs.Pass.Requests

/-! # The writes that a pass sends

What the two stores are asked for in a pass, in order and whatever they answer. A report tells of it;
that the stores receive just this is `run_logging`, in the module on stores that record.

* `Sent`: a write to one of the stores. `Report.sent`: the writes of a pass.
* `sent_performAll`: the writes of a plan are sent one after the other.
* `sent_run`: a pass sends the writes of its plan, and nothing if it has none.
* `mem_sent_plan`: the writes of a plan, kind by kind.
-/

namespace MeshPolicy.Pass
set_option autoImplicit false

inductive Sent where
  | rules (request : Request ServiceRole)
  | binding (request : Request RoleBinding)

namespace Sent

def call : Sent → Call
  | rules request => request.call
  | binding request => request.call

/-- The identity of the object that a store finds in the write. -/
def target? : Sent → Option ObjectId
  | rules request => request.target?
  | binding request => request.target?

end Sent

def Step.sent? : Step → Option Sent
  | .rules request => some (.rules request)
  | .binding request => some (.binding request)
  | _ => none

def Entry.sent? : Entry → Option Sent
  | .rules request _ => some (.rules request)
  | .binding request _ => some (.binding request)
  | _ => none

def Report.sent (report : Report) : List Sent := report.entries.filterMap Entry.sent?

variable {ω : Type}

theorem sent_perform (pass : Pass ω) (world : ω) (step : Step) :
    (pass.perform world step).1.sent? = step.sent? := by
  cases step <;> rfl

/-- The writes of a plan are sent in turn, however the earlier ones end. -/
theorem sent_performAll (pass : Pass ω) (steps : List Step) (world : ω) :
    (pass.performAll steps world).1.filterMap Entry.sent? = steps.filterMap Step.sent? := by
  induction steps generalizing world with
  | nil => rfl
  | cons step rest ih => simp only [performAll, List.filterMap_cons, sent_perform, ih]

/-- A pass sends the writes of the plan for what it listed, and nothing if a listing fails. -/
theorem sent_run (pass : Pass ω) (world : ω) :
    (pass.run world).1.sent = [] ∨
      ∃ rules bindings rulesLive bindingsLive, LiveIndex.ofObjects? rules = some rulesLive ∧
        LiveIndex.ofObjects? bindings = some bindingsLive ∧
        (pass.run world).1.sent =
          (plan pass.failed (wanted pass.dnsSuffix pass.answers pass.namespaces.keys) rulesLive
            bindingsLive).filterMap Step.sent? := by
  unfold run
  split
  next => exact .inl rfl
  next rules _ _ =>
    split
    next => exact .inl rfl
    next bindings _ _ =>
      split
      next => exact .inl rfl
      next steps hsteps =>
        simp only [planFor, Option.bind_eq_bind, Option.bind_eq_some_iff, Option.some.injEq] at hsteps
        obtain ⟨rulesLive, hrules, bindingsLive, hbindings, rfl⟩ := hsteps
        exact .inr ⟨rules, bindings, rulesLive, bindingsLive, hrules, hbindings,
          sent_performAll pass _ _⟩

theorem mem_sent_rules {steps : List Step} {request : Request ServiceRole} :
    .rules request ∈ steps.filterMap Step.sent? ↔ request ∈ steps.filterMap Step.rulesRequest? := by
  have hpick (step : Step) :
      step.sent? = some (.rules request) ↔ step.rulesRequest? = some request := by
    cases step <;> simp [Step.sent?, Step.rulesRequest?]
  simp only [List.mem_filterMap, hpick]

theorem mem_sent_binding {steps : List Step} {request : Request RoleBinding} :
    .binding request ∈ steps.filterMap Step.sent? ↔
      request ∈ steps.filterMap Step.bindingRequest? := by
  have hpick (step : Step) :
      step.sent? = some (.binding request) ↔ step.bindingRequest? = some request := by
    cases step <;> simp [Step.sent?, Step.bindingRequest?]
  simp only [List.mem_filterMap, hpick]

/-- The writes of a plan are those for the two kinds. -/
theorem mem_sent_plan {failed : SortedSet String} {wants : List Wanted}
    {rules : LiveIndex ServiceRole} {bindings : LiveIndex RoleBinding} {sent : Sent} :
    sent ∈ (plan failed wants rules bindings).filterMap Step.sent? ↔
      (∃ request ∈ requestsFor failed (wants.filterMap Wanted.rules?) rules,
        sent = .rules request) ∨
      ∃ request ∈ requestsFor failed (wants.filterMap Wanted.binding?) bindings,
        sent = .binding request := by
  rw [← rulesRequests_plan failed wants rules bindings,
    ← bindingRequests_plan failed wants rules bindings]
  cases sent with
  | rules request =>
    rw [mem_sent_rules]
    simp
  | binding request =>
    rw [mem_sent_binding]
    simp

end MeshPolicy.Pass
