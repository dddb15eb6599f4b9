import MeshPolicy.Proofs.Naming.Domains
import MeshPolicy.Proofs.Pass.Sent

/-! # What a tally counts

A tally is read off the entries of a pass one by one. Taken together, it counts how the stores have
answered the writes, and the roles and look-ups that the pass has met.

* `Receipt`: a write that a store has received, with its answer. `Entry.receipt?`, `Report.receipts`.
* `foldl_tally`: the tally of a list of entries, count by count.
* `Passive`, `countP_plan`, `countP_performAll`: what is flagged in a plan and in its entries.
* `countP_malformed_entries`, `countP_unavailable_entries`: the malformed roles, and the namespaces
  whose look-ups fail.
* `size_failedDomains`: the domains that could not be looked up are as many as such namespaces.
-/

namespace MeshPolicy
set_option autoImplicit false

/-! ## Receipts -/

/-- A write that a store has received, and how it has answered. -/
structure Receipt where
  kind : Kind
  call : Call
  outcome : WriteOutcome
  deriving DecidableEq

namespace Receipt

/-- The store has done what the call asks for. -/
def accepts (call : Call) (receipt : Receipt) : Bool :=
  receipt.call == call && receipt.outcome.isOk

/-- The store has refused the write. A deletion of what is gone already is not counted. -/
def isFailure (receipt : Receipt) : Bool :=
  match receipt.outcome with
  | .ok _ => false
  | .error (.notFound _) => receipt.call != .delete
  | .error _ => true

end Receipt

def Request.receipt {σ : Type} [Resource σ] (request : Request σ) (outcome : WriteOutcome) :
    Receipt :=
  ⟨Resource.kind σ, request.call, outcome⟩

namespace Pass

def Entry.receipt? : Entry → Option Receipt
  | .rules request outcome => some (request.receipt outcome)
  | .binding request outcome => some (request.receipt outcome)
  | _ => none

def Report.receipts (report : Report) : List Receipt := report.entries.filterMap Entry.receipt?

theorem receipts_cons (entry : Entry) (rest : List Entry) :
    (entry :: rest).filterMap Entry.receipt? =
      entry.receipt?.toList ++ rest.filterMap Entry.receipt? := by
  simp only [List.filterMap_eq_flatMap_toList, List.flatMap_cons]

/-! ## The tally of entries -/

def Entry.isMalformed : Entry → Bool
  | .malformed _ => true
  | _ => false

def Entry.isUnavailable : Entry → Bool
  | .unavailable _ => true
  | _ => false

/-- Counts receipts and malformed roles on top of a tally. -/
def Tally.add (tally : Tally) (receipts : List Receipt) (malformed : Nat) : Tally where
  created := tally.created + receipts.countP (Receipt.accepts .create)
  updated := tally.updated + receipts.countP (Receipt.accepts .replace)
  deleted := tally.deleted + receipts.countP (Receipt.accepts .delete)
  failed := tally.failed + receipts.countP Receipt.isFailure + malformed
  domainErrors := tally.domainErrors

theorem countWrite_eq {σ : Type} [Resource σ] (request : Request σ) (outcome : WriteOutcome)
    (tally : Tally) : countWrite request outcome tally = tally.add [request.receipt outcome] 0 := by
  obtain ⟨id, action⟩ := request
  rcases outcome with error | done
  · cases action <;> cases error <;> rfl
  · cases action <;> rfl

theorem Tally.add_add (tally : Tally) (receipts receipts' : List Receipt) (malformed malformed' : Nat) :
    (tally.add receipts malformed).add receipts' malformed' =
      tally.add (receipts ++ receipts') (malformed + malformed') := by
  simp only [Tally.add, List.countP_append, Nat.add_assoc, Nat.add_left_comm malformed]

theorem foldl_tally (entries : List Entry) (tally : Tally) :
    entries.foldl Entry.tally tally =
      tally.add (entries.filterMap Entry.receipt?) (entries.countP Entry.isMalformed) := by
  induction entries generalizing tally with
  | nil => rfl
  | cons entry rest ih =>
    have hentry : Entry.tally tally entry =
        tally.add entry.receipt?.toList (if entry.isMalformed then 1 else 0) := by
      cases entry with
      | rules request outcome => exact countWrite_eq request outcome tally
      | binding request outcome => exact countWrite_eq request outcome tally
      | _ => rfl
    rw [List.foldl_cons, ih, hentry, Tally.add_add, receipts_cons, List.countP_cons,
      Nat.add_comm (ite _ _ _)]

/-! ## Flags -/

def Step.isMalformed : Step → Bool
  | .malformed _ => true
  | _ => false

def Step.isUnavailable : Step → Bool
  | .unavailable _ => true
  | _ => false

def Wanted.isUnavailable : Wanted → Bool
  | .unavailable _ => true
  | _ => false

/-- A flag that neither a write nor a remark raises. -/
structure Passive (flag : Step → Bool) : Prop where
  note : ∀ event, flag (.note event) = false
  rules : ∀ request, flag (.rules request) = false
  binding : ∀ request, flag (.binding request) = false

theorem passive_isMalformed : Passive Step.isMalformed :=
  ⟨fun _ => rfl, fun _ => rfl, fun _ => rfl⟩

theorem passive_isUnavailable : Passive Step.isUnavailable :=
  ⟨fun _ => rfl, fun _ => rfl, fun _ => rfl⟩

section Flags

variable {flag : Step → Bool}

theorem flag_converge {σ : Type} [Resource σ] [DecidableEq σ] {step : Request σ → Step}
    (hstep : ∀ request, flag (step request) = false) (hnote : ∀ event, flag (.note event) = false)
    (live : LiveIndex σ) (id : ObjectId) (desired : Object σ) :
    flag (converge step live id desired) = false := by
  unfold converge
  split
  · exact hstep _
  · split
    · exact hnote _
    · exact hstep _

theorem countP_sweep {σ : Type} [Resource σ] {step : Request σ → Step}
    (hstep : ∀ request, flag (step request) = false) (hnote : ∀ event, flag (.note event) = false)
    (failed : SortedSet String) (live : LiveIndex σ) (claimed : List ObjectId) :
    (sweep step failed live claimed).countP flag = 0 := by
  rw [List.countP_eq_zero]
  intro swept hmem
  obtain ⟨id, _, rfl⟩ := List.mem_map.1 hmem
  simp only [discard]
  split
  · simp [hnote]
  · simp [hstep]

/-- What is flagged in a plan is what is flagged in the wants. -/
theorem countP_plan {wanted : Wanted → Bool} (h : Passive flag) (failed : SortedSet String)
    (wants : List Wanted) (rules : LiveIndex ServiceRole) (bindings : LiveIndex RoleBinding)
    (hwant : ∀ want, flag (settle rules bindings want) = wanted want) :
    (plan failed wants rules bindings).countP flag = wants.countP wanted := by
  rw [plan, List.countP_append, List.countP_append, countP_sweep h.rules h.note,
    countP_sweep h.binding h.note, List.countP_map]
  exact List.countP_congr fun want _ => by rw [Function.comp_apply, hwant]

theorem countP_performAll {ω : Type} {noted : Entry → Bool} (pass : Pass ω)
    (h : ∀ world step, noted (pass.perform world step).1 = flag step) (steps : List Step)
    (world : ω) : (pass.performAll steps world).1.countP noted = steps.countP flag := by
  induction steps generalizing world with
  | nil => rfl
  | cons step rest ih => simp only [performAll, List.countP_cons, h, ih]

end Flags

/-! ## Malformed roles and failed look-ups -/

theorem isMalformed_settle (rules : LiveIndex ServiceRole) (bindings : LiveIndex RoleBinding)
    (want : Wanted) : (settle rules bindings want).isMalformed = want.isMalformed := by
  cases want with
  | rules id desired => exact flag_converge (fun _ => rfl) (fun _ => rfl) rules id desired
  | binding id desired => exact flag_converge (fun _ => rfl) (fun _ => rfl) bindings id desired
  | _ => rfl

theorem isUnavailable_settle (rules : LiveIndex ServiceRole) (bindings : LiveIndex RoleBinding)
    (want : Wanted) : (settle rules bindings want).isUnavailable = want.isUnavailable := by
  cases want with
  | rules id desired => exact flag_converge (fun _ => rfl) (fun _ => rfl) rules id desired
  | binding id desired => exact flag_converge (fun _ => rfl) (fun _ => rfl) bindings id desired
  | _ => rfl

/-- The namespaces whose look-ups fail. -/
def unanswered (answers : Answers) (namespaces : List String) : List String :=
  namespaces.filter fun ns => !(answers ns).isOk

theorem Asks.countP_unavailable {dnsSuffix ns : String} {domain : Domain} {role : Role}
    {wants : List Wanted} (h : Asks dnsSuffix ns domain role wants) :
    wants.countP Wanted.isUnavailable = 0 := by
  cases h with
  | serviceRole => simp [Wanted.isUnavailable, Function.comp_def]
  | malformed => rfl
  | other => rfl

theorem countP_unavailable_wanted (dnsSuffix : String) (answers : Answers)
    (namespaces : List String) : (wanted dnsSuffix answers namespaces).countP Wanted.isUnavailable =
      (unanswered answers namespaces).length := by
  induction namespaces with
  | nil => rfl
  | cons ns rest ih =>
    have hrest : (rest.flatMap (wantedByNamespace dnsSuffix answers)).countP Wanted.isUnavailable =
        (unanswered answers rest).length := ih
    rw [wanted, List.flatMap_cons, List.countP_append, hrest]
    cases hanswer : answers ns with
    | error error =>
      obtain ⟨event, hevent⟩ := wantedByNamespace_error dnsSuffix hanswer
      simp [hevent, unanswered, hanswer, Wanted.isUnavailable, Except.isOk, Except.toBool,
        Nat.add_comm]
    | ok domain =>
      have hroles : (domain.roles.flatMap (wantedByRole dnsSuffix ns domain)).countP
          Wanted.isUnavailable = 0 := by
        rw [List.countP_eq_zero]
        intro want hwant
        obtain ⟨role, _, hwant⟩ := List.mem_flatMap.1 hwant
        have hrole := (wantedByRole_cases dnsSuffix ns domain role).countP_unavailable
        exact List.countP_eq_zero.1 hrole want hwant
      rw [wantedByNamespace_ok hanswer, hroles]
      simp [unanswered, hanswer, Except.isOk, Except.toBool]

section Entries

variable {ω : Type} (pass : Pass ω) (world : ω)

/-- A pass notes one malformed role for each one in the domains that it has looked up. -/
theorem countP_malformed_entries (rules : LiveIndex ServiceRole) (bindings : LiveIndex RoleBinding) :
    (pass.performAll (plan pass.failed (wanted pass.dnsSuffix pass.answers pass.namespaces.keys)
        rules bindings) world).1.countP Entry.isMalformed =
      (malformedRoles pass.answers pass.namespaces.keys).length := by
  have hperform (world : ω) (step : Step) :
      (pass.perform world step).1.isMalformed = step.isMalformed := by cases step <;> rfl
  rw [countP_performAll pass hperform,
    countP_plan passive_isMalformed _ _ _ _ (isMalformed_settle rules bindings),
    countP_malformed_wanted]

theorem countP_unavailable_entries (rules : LiveIndex ServiceRole)
    (bindings : LiveIndex RoleBinding) :
    (pass.performAll (plan pass.failed (wanted pass.dnsSuffix pass.answers pass.namespaces.keys)
        rules bindings) world).1.countP Entry.isUnavailable =
      (unanswered pass.answers pass.namespaces.keys).length := by
  have hperform (world : ω) (step : Step) :
      (pass.perform world step).1.isUnavailable = step.isUnavailable := by cases step <;> rfl
  rw [countP_performAll pass hperform,
    countP_plan passive_isUnavailable _ _ _ _ (isUnavailable_settle rules bindings),
    countP_unavailable_wanted]

end Entries

theorem mem_unanswered {answers : Answers} {namespaces : List String} {ns : String} :
    ns ∈ unanswered answers namespaces ↔ ns ∈ namespaces ∧ ∃ error, answers ns = .error error := by
  rw [unanswered, List.mem_filter]
  cases answers ns <;> simp [Except.isOk, Except.toBool]

theorem mem_failedDomains {answers : Answers} {namespaces : List String} {domain : String} :
    domain ∈ (failedDomains answers namespaces).keys ↔
      domain ∈ (unanswered answers namespaces).map Naming.domainOfNamespace := by
  simp only [failedDomains, SortedMap.mem_keys_ofList, List.mem_map, List.mem_filterMap,
    mem_unanswered]
  constructor
  · intro h
    obtain ⟨_, ⟨ns, hns, hfailed⟩, rfl⟩ := h
    cases hanswer : answers ns with
    | ok => simp [hanswer] at hfailed
    | error error =>
      simp only [hanswer, Option.some.injEq] at hfailed
      exact ⟨ns, ⟨hns, error, hanswer⟩, congrArg Prod.fst hfailed⟩
  · intro h
    obtain ⟨ns, ⟨hns, error, hanswer⟩, rfl⟩ := h
    exact ⟨(Naming.domainOfNamespace ns, ()), ⟨ns, hns, by simp [hanswer]⟩, rfl⟩

/-- Namespaces without dots have domains of their own, so that each one that fails counts. -/
theorem size_failedDomains {answers : Answers} {namespaces : List String}
    (hn : namespaces.Nodup) (hdots : ∀ ns ∈ namespaces, '.' ∉ ns.toList) :
    (failedDomains answers namespaces).size = (unanswered answers namespaces).length := by
  have hown : ((unanswered answers namespaces).map Naming.domainOfNamespace).Nodup := by
    refine List.Nodup.map_on (fun ns hns ns' hns' heq => ?_) (hn.filter _)
    exact Naming.domainOfNamespace_inj (hdots ns (mem_unanswered.1 hns).1)
      (hdots ns' (mem_unanswered.1 hns').1) heq
  have hperm := (List.perm_ext_iff_of_nodup (SortedMap.nodup_keys _) hown).2
    fun _ => mem_failedDomains
  have hlength := hperm.length_eq
  rwa [List.length_map, SortedMap.keys, List.length_map] at hlength

end Pass

end MeshPolicy
