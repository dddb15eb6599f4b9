import MeshPolicy.Proofs.Pass.Recording

/-! # Namespaces whose domains are unavailable

While the domain of a namespace cannot be looked up, passes leave its objects alone.

* `Shielded`: the domain of a namespace is one that a pass cannot look up.
* `Permitted`, `Spares`: what a pass may send.
* `permitted_requestsFor`, `run_spares`: the writes of one kind, and those of a pass, keep to that.
* `runAll`: passes one after the other. Each keeps to it, whatever the stores answer.
  `runAll_logging`: what the stores receive in all of them.
-/

namespace MeshPolicy.Pass
set_option autoImplicit false

open Naming

/-! ## Shielded namespaces -/

/-- The domain of the namespace is also that of an indexed one for which the look-up fails. -/
def Shielded (answers : Answers) (namespaces : List String) (ns : String) : Prop :=
  ∃ indexed ∈ namespaces, domainOfNamespace indexed = domainOfNamespace ns ∧
    ∃ error, answers indexed = .error error

theorem contains_failedDomains {answers : Answers} {namespaces : List String} {ns : String} :
    (failedDomains answers namespaces).contains (domainOfNamespace ns) = true ↔
      Shielded answers namespaces ns := by
  rw [SortedMap.contains_iff_mem_keys, failedDomains, SortedMap.mem_keys_ofList, List.mem_map]
  constructor
  · intro h
    obtain ⟨⟨domain, _⟩, hmem, rfl⟩ := h
    obtain ⟨indexed, hindexed, hfailed⟩ := List.mem_filterMap.1 hmem
    cases hanswer : answers indexed with
    | ok => simp [hanswer] at hfailed
    | error error =>
      simp only [hanswer, Option.some.injEq, Prod.mk.injEq, and_true] at hfailed
      exact ⟨indexed, hindexed, hfailed, error, hanswer⟩
  · intro h
    obtain ⟨indexed, hindexed, hdomain, error, hanswer⟩ := h
    exact ⟨(domainOfNamespace ns, ()), List.mem_filterMap.2 ⟨indexed, hindexed, by
      simp [hanswer, hdomain]⟩, rfl⟩

/-- An authority that answers alike each time shields no namespace that it answers for. -/
theorem not_shielded_of_ok {lookup : Lookup} {namespaces : List String} {ns : String}
    {domain : Domain} (h : lookup (domainOfNamespace ns) = .ok domain) :
    ¬ Shielded (answersOf lookup) namespaces ns := by
  intro h'
  obtain ⟨indexed, _, hdomain, error, herror⟩ := h'
  rw [answersOf, hdomain, h] at herror
  cases herror

/-! ## What one pass does not send -/

/-- A write may not be for an indexed namespace whose look-up fails, nor a deletion for any other
namespace of the same domain. -/
structure Permitted (answers : Answers) (namespaces : List String) (call : Call) (id : ObjectId) :
    Prop where
  answered : id.ns ∈ namespaces → ∀ error, answers id.ns ≠ .error error
  unshielded : call = .delete → ¬ Shielded answers namespaces id.ns

/-- Every write that the pass has sent is for an object that it may be for. -/
def Spares {ω : Type} (pass : Pass ω) (report : Report) : Prop :=
  ∀ sent ∈ report.sent, ∃ id, sent.target? = some id ∧
    Permitted pass.answers pass.namespaces.keys sent.call id

section Kind

variable {σ : Type} [DecidableEq σ] {answers : Answers} {namespaces : List String}
  {live : LiveIndex σ}

theorem permitted_converge {id : ObjectId} {desired : Object σ} {request : Request σ}
    {domain : Domain} (hanswer : answers id.ns = .ok domain)
    (h : convergeRequest? live id desired = some request) :
    Permitted answers namespaces request.call id := by
  refine ⟨fun _ error herror => ?_, fun hcall => ?_⟩
  · rw [hanswer] at herror
    cases herror
  · exact absurd hcall (call_convergeRequest? h)

theorem permitted_discard {id : ObjectId} (call : Call)
    (h : (failedDomains answers namespaces).contains (domainOfNamespace id.ns) = false) :
    Permitted answers namespaces call id := by
  have hunshielded : ¬ Shielded answers namespaces id.ns := fun hshielded => by
    rw [contains_failedDomains.2 hshielded] at h
    cases h
  refine ⟨fun hindexed error herror => ?_, fun _ => hunshielded⟩
  exact hunshielded ⟨id.ns, hindexed, rfl, error, herror⟩

/-- The writes of one kind are permitted if its wants are for namespaces that were looked up. -/
theorem permitted_requestsFor {objects : List (Object σ)} {wants : List (ObjectId × Object σ)}
    (hlive : LiveIndex.ofObjects? objects = some live)
    (hwants : ∀ want ∈ wants, want.2.id? = some want.1 ∧
      ∃ domain, answers want.1.ns = .ok domain) {request : Request σ}
    (hmem : request ∈ requestsFor (failedDomains answers namespaces) wants live) :
    ∃ id, request.target? = some id ∧ Permitted answers namespaces request.call id := by
  rcases (mem_requestsFor hlive).1 hmem with ⟨want, hwant, hconverge⟩ | ⟨id, _, _, hdiscard⟩
  · obtain ⟨hid, domain, hanswer⟩ := hwants want hwant
    have htarget := addressed_convergeRequest? hid hconverge
    rw [Request.Addressed, id_convergeRequest? hconverge] at htarget
    exact ⟨want.1, htarget, permitted_converge hanswer hconverge⟩
  · obtain ⟨hfree, rfl⟩ := discardRequest?_eq_some.1 hdiscard
    exact ⟨id, rfl, permitted_discard _ hfree⟩

end Kind

variable {ω : Type}

/-- A pass spares what is shielded, whatever it lists and however its writes end. -/
theorem run_spares (pass : Pass ω) (world : ω) : Spares pass (pass.run world).1 := by
  intro sent hmem
  rcases sent_run pass world with hnone | ⟨_, _, _, _, hrules, hbindings, hplan⟩
  · rw [hnone] at hmem
    cases hmem
  · rw [hplan, mem_sent_plan] at hmem
    rcases hmem with ⟨request, hrequest, rfl⟩ | ⟨request, hrequest, rfl⟩
    · exact permitted_requestsFor hrules answered_rulesWants hrequest
    · exact permitted_requestsFor hbindings answered_bindingWants hrequest

/-! ## Passes one after the other -/

/-- Runs passes in turn, over one world. They may be over different authorities, namespaces and
stores, so that anything may have changed from one pass to the next. -/
def runAll : List (Pass ω) → ω → List Report × ω
  | [], world => ([], world)
  | pass :: rest, world =>
    let (report, world) := pass.run world
    let (reports, world) := runAll rest world
    (report :: reports, world)

/-- In a run the stores receive what the passes send, one pass after the other. -/
theorem runAll_logging (passes : List (Pass ω)) (log : List Received) (world : ω) :
    runAll (passes.map logging) (log, world) =
      ((runAll passes world).1,
        log ++ (runAll passes world).1.flatMap fun report => report.sent.map Sent.received,
        (runAll passes world).2) := by
  induction passes generalizing log world with
  | nil => simp only [List.map_nil, runAll, List.flatMap_nil, List.append_nil]
  | cons pass rest ih =>
    simp only [List.map_cons, runAll, run_logging, ih, List.flatMap_cons, List.append_assoc]

/-- Every pass of a run spares what is shielded in it, and the stores receive nothing but what the
passes send. -/
theorem runAll_spares (passes : List (Pass ω)) (world : ω) :
    List.Forall₂ Spares passes (runAll passes world).1 ∧
      ∀ log, runAll (passes.map logging) (log, world) =
        ((runAll passes world).1,
          log ++ (runAll passes world).1.flatMap fun report => report.sent.map Sent.received,
          (runAll passes world).2) := by
  refine ⟨?_, fun log => runAll_logging passes log world⟩
  induction passes generalizing world with
  | nil => exact .nil
  | cons pass rest ih => exact .cons (run_spares pass world) (ih _)

end MeshPolicy.Pass
