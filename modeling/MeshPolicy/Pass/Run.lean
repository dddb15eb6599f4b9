import MeshPolicy.Pass.Report

/-! # Running a pass

* `Pass`: what a pass works with: the authority, the namespaces and the two stores.
* `perform`, `performAll`: the steps of a plan, carried out one after the other.
* `Pass.run`: lists both kinds of objects, makes the plan and carries it out. A pass fails only when
  a listing does, and then it has written nothing.
-/

namespace MeshPolicy
set_option autoImplicit false

/-- What a pass works with, over a world `ω`. -/
structure Pass (ω : Type) where
  answers : Pass.Answers
  namespaces : SortedSet String
  dnsSuffix : String
  rules : Store ServiceRole ω
  bindings : Store RoleBinding ω

namespace Pass

variable {ω : Type}

def perform (pass : Pass ω) (world : ω) : Step → Entry × ω
  | .note event => (.note event, world)
  | .unavailable event => (.unavailable event, world)
  | .malformed event => (.malformed event, world)
  | .rules request =>
    let (outcome, world) := pass.rules.perform request world
    (.rules request outcome, world)
  | .binding request =>
    let (outcome, world) := pass.bindings.perform request world
    (.binding request outcome, world)

def performAll (pass : Pass ω) : List Step → ω → List Entry × ω
  | [], world => ([], world)
  | step :: rest, world =>
    let (entry, world) := pass.perform world step
    let (entries, world) := pass.performAll rest world
    (entry :: entries, world)

def failed (pass : Pass ω) : SortedSet String := failedDomains pass.answers pass.namespaces.keys

/-- The plan for two listings; none if a listed object has no name. -/
def planFor (pass : Pass ω) (rules : List (Object ServiceRole))
    (bindings : List (Object RoleBinding)) : Option (List Step) := do
  let rules ← LiveIndex.ofObjects? rules
  let bindings ← LiveIndex.ofObjects? bindings
  some (plan pass.failed (wanted pass.dnsSuffix pass.answers pass.namespaces.keys) rules bindings)

def run (pass : Pass ω) (world : ω) : Report × ω :=
  match pass.rules.list world with
  | (.error error, world) => ({ result := .error error }, world)
  | (.ok rules, world) =>
    match pass.bindings.list world with
    | (.error error, world) => ({ result := .error error }, world)
    | (.ok bindings, world) =>
      match pass.planFor rules bindings with
      | none => ({ result := .error .unnamed }, world)
      | some steps =>
        let (entries, world) := pass.performAll steps world
        ({ entries, result := .ok (tallyOf pass.failed entries) }, world)

end Pass

end MeshPolicy
