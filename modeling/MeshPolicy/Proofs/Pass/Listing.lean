import MeshPolicy.Proofs.Pass.Recording

/-! # What a pass lists

Everything that a pass does follows from what it lists first.

* `Stores`: the two stores of a pass, which may record. `Listing`: the objects in both.
* `Stores.list`: the two listings, taken together. `Listing.Named`: each listed object has a name.
* `run_of_unlisted`, `run_of_listed`: a pass fails with its listings, and otherwise carries out the
  plan for them.
* `sent_of_listed`: then it succeeds and sends the writes of that plan.
-/

namespace MeshPolicy
set_option autoImplicit false

namespace Pass

/-- The stores of the two kinds of objects, over one world. -/
structure Stores (ω : Type) where
  rules : Store ServiceRole ω
  bindings : Store RoleBinding ω

structure Listing where
  rules : List (Object ServiceRole)
  bindings : List (Object RoleBinding)

/-- Stored objects have names; a pass gives up on a listing with one that has none. -/
structure Listing.Named (listing : Listing) : Prop where
  rules : ∀ object ∈ listing.rules, ∃ id, object.id? = some id
  bindings : ∀ object ∈ listing.bindings, ∃ id, object.id? = some id

variable {ω : Type}

def stores (pass : Pass ω) : Stores ω := ⟨pass.rules, pass.bindings⟩

def Stores.recording {α : Type} (notes : Notes α) (stores : Stores ω) : Stores (List α × ω) :=
  ⟨stores.rules.recording notes.ofRules, stores.bindings.recording notes.ofBinding⟩

def Stores.logging (stores : Stores ω) : Stores (List Received × ω) := stores.recording .received

/-- Lists the access rules and then the bindings. -/
def Stores.list (stores : Stores ω) (world : ω) : Except StoreError Listing × ω :=
  match stores.rules.list world with
  | (.error error, world) => (.error error, world)
  | (.ok rules, world) =>
    match stores.bindings.list world with
    | (.error error, world) => (.error error, world)
    | (.ok bindings, world) => (.ok ⟨rules, bindings⟩, world)

/-- One of the two listings fails, the second of them in the world that the first one leaves. -/
theorem Stores.list_fails_iff (stores : Stores ω) (world : ω) :
    (∃ error, (stores.list world).1 = .error error) ↔
      (∃ error, (stores.rules.list world).1 = .error error) ∨
        ∃ error, (stores.bindings.list (stores.rules.list world).2).1 = .error error := by
  unfold Stores.list
  rcases stores.rules.list world with ⟨_ | rules, between⟩
  · simp
  · rcases hb : stores.bindings.list between with ⟨_ | bindings, listed⟩ <;> simp [hb]

/-- Listings that succeed have both succeeded, one after the other. -/
theorem Stores.listed_of_list {stores : Stores ω} {world listed : ω} {listing : Listing}
    (h : stores.list world = (.ok listing, listed)) :
    ∃ between, stores.rules.list world = (.ok listing.rules, between) ∧
      stores.bindings.list between = (.ok listing.bindings, listed) := by
  unfold Stores.list at h
  rcases hr : stores.rules.list world with ⟨_ | rules, between⟩
  · rw [hr] at h
    cases h
  · rw [hr] at h
    rcases hb : stores.bindings.list between with ⟨_ | bindings, after⟩
    · simp only [hb] at h
      cases h
    · simp only [hb] at h
      cases h
      exact ⟨between, rfl, hb⟩

/-! ## Runs -/

section Run

variable {pass : Pass ω} {world listed : ω}

theorem run_of_unlisted {error : StoreError} (h : pass.stores.list world = (.error error, listed)) :
    pass.run world = ({ result := .error error }, listed) := by
  unfold Stores.list stores at h
  unfold run
  rcases hr : pass.rules.list world with ⟨_ | rules, between⟩
  · rw [hr] at h
    cases h
    rfl
  · rw [hr] at h
    rcases hb : pass.bindings.list between with ⟨_ | bindings, after⟩
    · simp only [hb] at h ⊢
      cases h
      rfl
    · simp only [hb] at h
      cases h

/-- The steps that a pass plans for what it has listed. -/
def stepsFor (pass : Pass ω) (rules : LiveIndex ServiceRole) (bindings : LiveIndex RoleBinding) :
    List Step :=
  plan pass.failed (wanted pass.dnsSuffix pass.answers pass.namespaces.keys) rules bindings

/-- A pass whose listings succeed carries out the plan for them. -/
theorem run_of_planned {listing : Listing} {steps : List Step}
    (h : pass.stores.list world = (.ok listing, listed))
    (hsteps : pass.planFor listing.rules listing.bindings = some steps) :
    pass.run world =
      ({ entries := (pass.performAll steps listed).1
         result := .ok (tallyOf pass.failed (pass.performAll steps listed).1) },
        (pass.performAll steps listed).2) := by
  obtain ⟨between, hrules, hbindings⟩ := Stores.listed_of_list h
  have hrules' : pass.rules.list world = (.ok listing.rules, between) := hrules
  have hbindings' : pass.bindings.list between = (.ok listing.bindings, listed) := hbindings
  simp only [run, hrules', hbindings', hsteps]

/-- Without a plan, as a listed object has no name, it fails. -/
theorem run_of_unplanned {listing : Listing} (h : pass.stores.list world = (.ok listing, listed))
    (hsteps : pass.planFor listing.rules listing.bindings = none) :
    pass.run world = ({ result := .error .unnamed }, listed) := by
  obtain ⟨between, hrules, hbindings⟩ := Stores.listed_of_list h
  have hrules' : pass.rules.list world = (.ok listing.rules, between) := hrules
  have hbindings' : pass.bindings.list between = (.ok listing.bindings, listed) := hbindings
  simp only [run, hrules', hbindings', hsteps]

/-- A pass that has listed both kinds succeeds and carries out its plan. -/
theorem run_of_listed {listing : Listing} (h : pass.stores.list world = (.ok listing, listed))
    (hn : listing.Named) :
    ∃ rules bindings, LiveIndex.ofObjects? listing.rules = some rules ∧
      LiveIndex.ofObjects? listing.bindings = some bindings ∧
      pass.run world =
        ({ entries := (pass.performAll (pass.stepsFor rules bindings) listed).1
           result := .ok (tallyOf pass.failed
            (pass.performAll (pass.stepsFor rules bindings) listed).1) },
          (pass.performAll (pass.stepsFor rules bindings) listed).2) := by
  obtain ⟨rules, hrules⟩ := LiveIndex.ofObjects?_of_named hn.rules
  obtain ⟨bindings, hbindings⟩ := LiveIndex.ofObjects?_of_named hn.bindings
  have hsteps : pass.planFor listing.rules listing.bindings =
      some (pass.stepsFor rules bindings) := by
    simp only [planFor, hrules, hbindings, Option.bind_eq_bind, Option.bind_some, stepsFor]
  exact ⟨rules, bindings, hrules, hbindings, run_of_planned h hsteps⟩

/-- A pass has nothing to report, or it reports what came of a plan. -/
theorem run_cases (pass : Pass ω) (world : ω) :
    (∃ error, (pass.run world).1 = { result := .error error }) ∨
      ∃ rules bindings listed, (pass.run world).1 =
        { entries := (pass.performAll (pass.stepsFor rules bindings) listed).1
          result := .ok (tallyOf pass.failed
            (pass.performAll (pass.stepsFor rules bindings) listed).1) } := by
  rcases hlist : pass.stores.list world with ⟨error | listing, listed⟩
  · exact .inl ⟨error, by rw [run_of_unlisted hlist]⟩
  · cases hsteps : pass.planFor listing.rules listing.bindings with
    | none => exact .inl ⟨.unnamed, by rw [run_of_unplanned hlist hsteps]⟩
    | some steps =>
      have hplan := hsteps
      simp only [planFor, Option.bind_eq_bind, Option.bind_eq_some_iff, Option.some.injEq] at hplan
      obtain ⟨rules, _, bindings, _, rfl⟩ := hplan
      exact .inr ⟨rules, bindings, listed, by rw [run_of_planned hlist hsteps]; rfl⟩

/-- However its writes end, it succeeds, and it sends the writes of its plan in order. -/
theorem sent_of_listed {listing : Listing} (h : pass.stores.list world = (.ok listing, listed))
    (hn : listing.Named) :
    ∃ rules bindings, LiveIndex.ofObjects? listing.rules = some rules ∧
      LiveIndex.ofObjects? listing.bindings = some bindings ∧
      (∃ tally, (pass.run world).1.result = .ok tally) ∧
      (pass.run world).1.sent = (pass.stepsFor rules bindings).filterMap Step.sent? := by
  obtain ⟨rules, bindings, hrules, hbindings, hrun⟩ := run_of_listed h hn
  refine ⟨rules, bindings, hrules, hbindings, ?_⟩
  rw [hrun]
  exact ⟨⟨_, rfl⟩, sent_performAll pass _ _⟩

end Run

end Pass

end MeshPolicy
