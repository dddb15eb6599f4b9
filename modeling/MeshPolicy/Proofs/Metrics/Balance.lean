import MeshPolicy.Proofs.Metrics.Receipts
import MeshPolicy.Proofs.Pass.Interleaving

/-! # The books balance

Tallies and metrics are kept by the passes. What they say is checked here against the stores, which
file a receipt of every write, and against the look-ups that were made.

* `Round`, `course`, `runAll`: passes of both loops, one after the other, that share their metrics.
* `PassMetrics.Counts`: what the metrics say of receipts, failed look-ups and passes.
  `Counts.measure`: a pass adds what it has done; `Counts.runAll`: so does a run.
* `tally_of_sync`: what the tally of a pass says of its receipts and look-ups.
* `books_balance`: tallies and metrics agree with the receipts and the look-ups.
-/

namespace MeshPolicy
set_option autoImplicit false

variable {ω : Type}

open Naming (domainOfNamespace)
open Pass (Controller Entry Stores Tally unanswered)

/-! ## Passes that share their metrics -/

/-- A pass of one of the two loops. -/
inductive Round (ω : Type) where
  | rules (controller : Controller) (stores : Stores ω)
  | onboarding (store : Store Enforcement ω) (enabled : List String)

/-- The domains, of those looked up in turn, for which the authority gives no answer. -/
def failedLookups (authority : Pass.Authority) : List String → List String → List String
  | _, [] => []
  | asked, domain :: rest =>
    (if (authority asked domain).isOk then [] else [domain]) ++
      failedLookups authority (asked ++ [domain]) rest

namespace Round

def loop : Round ω → Loop
  | rules _ _ => .rules
  | onboarding _ _ => .onboarding

def verdict (world : ω) : Round ω → Verdict
  | rules controller stores => .of (controller.sync stores world).report.result
  | onboarding store enabled => .of (Inclusion.run store enabled world).1.result

def after (world : ω) : Round ω → ω
  | rules controller stores => (controller.sync stores world).world
  | onboarding store enabled => (Inclusion.run store enabled world).2

/-- Counts on top of what earlier passes have counted. -/
def measure (metrics : PassMetrics) (world : ω) : Round ω → PassMetrics
  | rules controller stores => (controller.sync stores world).report.measure metrics
  | onboarding store enabled => (Inclusion.run store enabled world).1.measure metrics

def failedLookups (world : ω) : Round ω → List String
  | rules controller stores =>
    MeshPolicy.failedLookups controller.authority [] (controller.sync stores world).asked
  | onboarding _ _ => []

def receipting : Round ω → Round (List Receipt × ω)
  | rules controller stores => .rules controller stores.receipting
  | onboarding store enabled => .onboarding store.receipting enabled

/-- The receipts that are filed during a pass. -/
def receipts (world : ω) (round : Round ω) : List Receipt := (round.receipting.after ([], world)).1

end Round

/-- Each pass with the world that it starts in. -/
def course : List (Round ω) → ω → List (Round ω × ω)
  | [], _ => []
  | round :: rest, world => (round, world) :: course rest (round.after world)

theorem mem_of_mem_course {rounds : List (Round ω)} {round : Round ω} {world started : ω}
    (h : (round, started) ∈ course rounds world) : round ∈ rounds := by
  induction rounds generalizing world with
  | nil => cases h
  | cons first rest ih =>
    rcases List.mem_cons.1 h with hfirst | hrest
    · cases hfirst
      exact List.mem_cons_self
    · exact List.mem_cons_of_mem _ (ih hrest)

def runAll : List (Round ω) → PassMetrics × ω → PassMetrics × ω
  | [], state => state
  | round :: rest, (metrics, world) => runAll rest (round.measure metrics world, round.after world)

/-! ## What metrics count -/

def Operation.call : Operation → Call
  | create => .create
  | update => .replace
  | delete => .delete

namespace Receipt

def verdict (receipt : Receipt) : Verdict := if receipt.isFailure then .error else .ok

@[simp] theorem verdict_eq_error {receipt : Receipt} :
    receipt.verdict = .error ↔ receipt.isFailure = true := by
  unfold verdict
  split <;> simp_all

def isOf (kind : Kind) (operation : Operation) (receipt : Receipt) : Bool :=
  receipt.kind = kind ∧ receipt.call = operation.call

end Receipt

/-- The metrics count these receipts, so many failed look-ups and these passes. -/
structure PassMetrics.Counts (metrics : PassMetrics) (receipts : List Receipt) (lookups : Nat)
    (passes : List (Loop × Verdict)) : Prop where
  writes : ∀ kind operation verdict, metrics.writes.count (kind, operation, verdict) =
    receipts.countP fun receipt => receipt.isOf kind operation && receipt.verdict = verdict
  lookupErrors : metrics.lookupErrors = lookups
  passes : ∀ pass, metrics.passes.count pass = passes.count pass

theorem writeVerdict_eq {σ : Type} [Resource σ] (request : Request σ) (outcome : WriteOutcome) :
    writeVerdict request.action.operation outcome = (request.receipt outcome).verdict := by
  obtain ⟨id, action⟩ := request
  rcases outcome with error | done
  · cases action <;> cases error <;> rfl
  · cases action <;> rfl

theorem isOf_receipt {σ : Type} [Resource σ] (request : Request σ) (outcome : WriteOutcome)
    (kind : Kind) (operation : Operation) :
    (request.receipt outcome).isOf kind operation =
      decide (Resource.kind σ = kind ∧ request.action.operation = operation) := by
  obtain ⟨id, action⟩ := request
  cases action <;> cases operation <;> simp [Receipt.isOf, Request.receipt, Request.call,
    Action.operation, Operation.call]

namespace PassMetrics.Counts

variable {metrics : PassMetrics} {receipts : List Receipt} {lookups : Nat}
  {passes : List (Loop × Verdict)}

theorem empty : ({} : PassMetrics).Counts [] 0 [] :=
  ⟨fun _ _ _ => rfl, rfl, fun _ => rfl⟩

theorem request {σ : Type} [Resource σ] (h : metrics.Counts receipts lookups passes)
    (request : Request σ) (outcome : WriteOutcome) :
    (metrics.countRequest request outcome).Counts (receipts ++ [request.receipt outcome]) lookups
      passes where
  writes kind operation verdict := by
    rw [countRequest, countWrite, Counter.count_bump, h.writes, List.countP_append,
      List.countP_singleton, writeVerdict_eq, isOf_receipt]
    simp [Prod.ext_iff, and_assoc]
  lookupErrors := h.lookupErrors
  passes := h.passes

theorem lookupError (h : metrics.Counts receipts lookups passes) :
    metrics.countLookupError.Counts receipts (lookups + 1) passes where
  writes := h.writes
  lookupErrors := congrArg (· + 1) h.lookupErrors
  passes := h.passes

theorem pass (h : metrics.Counts receipts lookups passes) (loop : Loop) (verdict : Verdict) :
    (metrics.countPass loop verdict).Counts receipts lookups (passes ++ [(loop, verdict)]) where
  writes := h.writes
  lookupErrors := h.lookupErrors
  passes pass := by
    rw [countPass, Counter.count_bump, h.passes, List.count_append, List.count_singleton]
    simp

theorem entry (h : metrics.Counts receipts lookups passes) (entry : Entry) :
    (Entry.measure metrics entry).Counts (receipts ++ entry.receipt?.toList)
      (lookups + if entry.isUnavailable then 1 else 0) passes := by
  cases entry with
  | rules request outcome => exact h.request request outcome
  | binding request outcome => exact h.request request outcome
  | unavailable =>
    simpa [Entry.receipt?, Entry.measure, Entry.isUnavailable] using h.lookupError
  | _ => simpa [Entry.receipt?, Entry.measure, Entry.isUnavailable] using h

theorem entries (h : metrics.Counts receipts lookups passes) (entries : List Entry) :
    (entries.foldl Entry.measure metrics).Counts (receipts ++ entries.filterMap Entry.receipt?)
      (lookups + entries.countP Entry.isUnavailable) passes := by
  induction entries generalizing metrics receipts lookups with
  | nil => simpa using h
  | cons entry rest ih =>
    have hrest := ih (h.entry entry)
    rwa [List.append_assoc, ← Pass.receipts_cons, Nat.add_assoc, Nat.add_comm (ite _ _ _),
      ← List.countP_cons] at hrest

end PassMetrics.Counts

/-! ## Passes over stores that file receipts -/

namespace Round

theorem receipts_rules (c : Controller) (stores : Stores ω) (world : ω) :
    (Round.rules c stores).receipts world = (c.sync stores world).report.receipts := by
  simp only [receipts, receipting, after, Controller.sync_receipting, List.nil_append]

theorem receipts_onboarding (store : Store Enforcement ω) (enabled : List String) (world : ω) :
    (Round.onboarding store enabled).receipts world =
      (Inclusion.run store enabled world).1.receipts := by
  simp only [receipts, receipting, after, Inclusion.run_receipting, List.nil_append]

theorem measure_receipting (round : Round ω) (metrics : PassMetrics) (receipts : List Receipt)
    (world : ω) :
    round.receipting.measure metrics (receipts, world) = round.measure metrics world := by
  cases round with
  | rules c stores => simp only [measure, receipting, Controller.sync_receipting]
  | onboarding store enabled => simp only [measure, receipting, Inclusion.run_receipting]

theorem after_receipting (round : Round ω) (receipts : List Receipt) (world : ω) :
    round.receipting.after (receipts, world) =
      (receipts ++ round.receipts world, round.after world) := by
  cases round with
  | rules c stores =>
    rw [receipts_rules]
    simp only [after, receipting, Controller.sync_receipting]
  | onboarding store enabled =>
    rw [receipts_onboarding]
    simp only [after, receipting, Inclusion.run_receipting]

end Round

/-- A run is the same over stores that file receipts. -/
theorem runAll_receipting (rounds : List (Round ω)) (metrics : PassMetrics)
    (receipts : List Receipt) (world : ω) :
    runAll (rounds.map Round.receipting) (metrics, receipts, world) =
      ((runAll rounds (metrics, world)).1,
        receipts ++ (course rounds world).flatMap fun r => r.1.receipts r.2,
        (runAll rounds (metrics, world)).2) := by
  induction rounds generalizing metrics receipts world with
  | nil => simp [runAll, course]
  | cons round rest ih =>
    simp only [List.map_cons, runAll, round.measure_receipting, round.after_receipting, ih, course,
      List.flatMap_cons, List.append_assoc]

/-! ## Look-ups -/

/-- Of the look-ups of a pass, those fail whose namespaces get no answer. -/
theorem length_failedLookups (c : Controller) (asked : List String) {namespaces : List String}
    (hn : namespaces.Nodup) :
    (failedLookups c.authority asked (namespaces.map domainOfNamespace)).length =
      (unanswered (c.answersInTurn asked namespaces) namespaces).length := by
  induction namespaces generalizing asked with
  | nil => rfl
  | cons ns rest ih =>
    obtain ⟨hnot, hrest⟩ := List.nodup_cons.1 hn
    have hlater : unanswered (c.answersInTurn asked (ns :: rest)) rest =
        unanswered (c.answersInTurn (asked ++ [domainOfNamespace ns]) rest) rest :=
      List.filter_congr fun own hown => by rw [c.answersInTurn_later asked hnot hown]
    have hcons : unanswered (c.answersInTurn asked (ns :: rest)) (ns :: rest) =
        (if (c.answersAfter asked ns).isOk then [] else [ns]) ++
          unanswered (c.answersInTurn (asked ++ [domainOfNamespace ns]) rest) rest := by
      rw [← hlater, unanswered, List.filter_cons, c.answersInTurn_self]
      cases (c.answersAfter asked ns).isOk <;> rfl
    rw [hcons, List.map_cons, failedLookups, List.length_append, List.length_append, ih _ hrest]
    unfold Controller.answersAfter
    cases (c.authority asked (domainOfNamespace ns)).isOk <;> rfl

/-! ## What a pass does to the books -/

section Sync

variable {c : Controller} {stores : Stores ω} {world : ω}

/-- A pass notes one failed look-up for each one that it has made. -/
theorem countP_unavailable_sync :
    (c.sync stores world).report.entries.countP Entry.isUnavailable =
      ((Round.rules c stores).failedLookups world).length := by
  rw [Round.failedLookups, Controller.sync_eq]
  rcases Pass.run_cases (c.pass stores (c.answersInTurn [] c.namespaces.keys)) world with
    ⟨error, hrun⟩ | ⟨rules, bindings, listed, hrun⟩
  · rw [hrun]
    rfl
  · rw [hrun]
    have hentries := Pass.countP_unavailable_entries
      (c.pass stores (c.answersInTurn [] c.namespaces.keys)) listed rules bindings
    have hlookups := length_failedLookups c [] (SortedMap.nodup_keys c.namespaces)
    exact hentries.trans hlookups.symm

theorem length_failedLookups_sync {tally : Tally}
    (h : (c.sync stores world).report.result = .ok tally) :
    ((Round.rules c stores).failedLookups world).length =
      (unanswered (c.answersInTurn [] c.namespaces.keys) c.namespaces.keys).length := by
  have hasked : (c.sync stores world).asked = c.namespaces.keys.map domainOfNamespace := by
    rw [Controller.sync_eq] at h ⊢
    simp only at h
    simp only [h]
    rfl
  rw [Round.failedLookups, hasked]
  exact length_failedLookups c [] (SortedMap.nodup_keys c.namespaces)

/-- The tally of a pass counts what the stores have answered, the malformed roles that it has met
and the look-ups that have failed. -/
theorem tally_of_sync {tally : Tally} (hdots : ∀ ns ∈ c.namespaces.keys, '.' ∉ ns.toList)
    (h : (c.sync stores world).report.result = .ok tally) :
    tally = Tally.add { domainErrors := ((Round.rules c stores).failedLookups world).length }
      ((Round.rules c stores).receipts world)
      (malformedRoles (c.answersInTurn [] c.namespaces.keys) c.namespaces.keys).length := by
  rw [← countP_unavailable_sync, Round.receipts_rules]
  rw [Controller.sync_eq] at h ⊢
  rcases Pass.run_cases (c.pass stores (c.answersInTurn [] c.namespaces.keys)) world with
    ⟨error, hrun⟩ | ⟨rules, bindings, listed, hrun⟩
  · rw [hrun] at h
    cases h
  · rw [hrun] at h ⊢
    have hmalformed := Pass.countP_malformed_entries
      (c.pass stores (c.answersInTurn [] c.namespaces.keys)) listed rules bindings
    have hunavailable := Pass.countP_unavailable_entries
      (c.pass stores (c.answersInTurn [] c.namespaces.keys)) listed rules bindings
    have hfailed : (Pass.failedDomains (c.answersInTurn [] c.namespaces.keys)
        c.namespaces.keys).size = _ := Pass.size_failedDomains (SortedMap.nodup_keys _) hdots
    obtain rfl := Except.ok.inj h
    simp only [Pass.tallyOf, Pass.foldl_tally, Tally.add, Pass.Report.receipts, Pass.failed,
      Tally.mk.injEq, true_and]
    exact ⟨congrArg _ hmalformed, hfailed.trans hunavailable.symm⟩

end Sync

/-- A pass adds what it has done to the books. -/
theorem PassMetrics.Counts.measure {metrics : PassMetrics} {receipts : List Receipt} {lookups : Nat}
    {passes : List (Loop × Verdict)} (h : metrics.Counts receipts lookups passes)
    (round : Round ω) (world : ω) :
    (round.measure metrics world).Counts (receipts ++ round.receipts world)
      (lookups + (round.failedLookups world).length)
      (passes ++ [(round.loop, round.verdict world)]) := by
  cases round with
  | rules c stores =>
    rw [Round.receipts_rules, ← countP_unavailable_sync]
    exact (h.entries _).pass _ _
  | onboarding store enabled =>
    rw [Round.receipts_onboarding]
    have hwrite : ((Inclusion.run store enabled world).1.write.toList.foldl
        (fun metrics w => metrics.countRequest w.1 w.2) metrics).Counts
        (receipts ++ (Inclusion.run store enabled world).1.receipts) lookups passes := by
      unfold Inclusion.Report.receipts
      cases (Inclusion.run store enabled world).1.write with
      | none => simpa using h
      | some w => exact h.request w.1 w.2
    exact hwrite.pass _ _

/-- So does a run. -/
theorem PassMetrics.Counts.runAll {metrics : PassMetrics} {receipts : List Receipt} {lookups : Nat}
    {passes : List (Loop × Verdict)} (h : metrics.Counts receipts lookups passes)
    (rounds : List (Round ω)) (world : ω) :
    (MeshPolicy.runAll rounds (metrics, world)).1.Counts
      (receipts ++ (course rounds world).flatMap fun r => r.1.receipts r.2)
      (lookups + ((course rounds world).flatMap fun r => r.1.failedLookups r.2).length)
      (passes ++ (course rounds world).map fun r => (r.1.loop, r.1.verdict r.2)) := by
  induction rounds generalizing metrics receipts lookups passes world with
  | nil => simpa [MeshPolicy.runAll, course] using h
  | cons round rest ih =>
    have hrest := ih (h.measure round world) (round.after world)
    simpa only [MeshPolicy.runAll, course, List.flatMap_cons, List.map_cons, List.append_assoc,
      List.length_append, Nat.add_assoc, List.singleton_append] using hrest

/-! ## The balance -/

/-- The writes of a kind and an operation have been counted under one of the two verdicts. -/
theorem PassMetrics.Counts.writes_add {metrics : PassMetrics} {receipts : List Receipt}
    {lookups : Nat} {passes : List (Loop × Verdict)} (h : metrics.Counts receipts lookups passes)
    (kind : Kind) (operation : Operation) :
    metrics.writes.count (kind, operation, .ok) + metrics.writes.count (kind, operation, .error) =
      receipts.countP (Receipt.isOf kind operation) := by
  rw [h.writes, h.writes, List.countP_eq_countP_filter_add receipts (Receipt.isOf kind operation)
    (fun receipt => receipt.verdict = .ok), List.countP_filter, List.countP_filter]
  congr 1
  refine List.countP_congr fun receipt _ => ?_
  cases receipt.verdict <;> simp

/-- Over any run of passes that share their metrics, whatever the stores list and answer and
whatever the authority answers, the books balance. The tally of each rules pass that succeeds counts
the writes that the stores have accepted and refused, the malformed roles and the failed look-ups.
The metrics count all writes and all failures among them, the failed look-ups and the passes. -/
theorem books_balance (rounds : List (Round ω)) (world : ω)
    (hdots : ∀ c stores, Round.rules c stores ∈ rounds → ∀ ns ∈ c.namespaces.keys,
      '.' ∉ ns.toList) :
    (∀ c stores started tally, (Round.rules c stores, started) ∈ course rounds world →
      (c.sync stores started).report.result = .ok tally →
      let receipts := (Round.rules c stores).receipts started
      let answers := c.answersInTurn [] c.namespaces.keys
      tally.created = receipts.countP (Receipt.accepts .create) ∧
      tally.updated = receipts.countP (Receipt.accepts .replace) ∧
      tally.deleted = receipts.countP (Receipt.accepts .delete) ∧
      tally.failed = receipts.countP Receipt.isFailure +
        (malformedRoles answers c.namespaces.keys).length ∧
      tally.domainErrors = (unanswered answers c.namespaces.keys).length) ∧
    ∃ metrics receipts after, runAll rounds ({}, world) = (metrics, after) ∧
      runAll (rounds.map Round.receipting) ({}, [], world) = (metrics, receipts, after) ∧
      (∀ kind operation,
        metrics.writes.count (kind, operation, .ok) +
            metrics.writes.count (kind, operation, .error) =
          receipts.countP (Receipt.isOf kind operation) ∧
        metrics.writes.count (kind, operation, .error) =
          receipts.countP fun receipt => receipt.isOf kind operation && receipt.isFailure) ∧
      metrics.lookupErrors =
        ((course rounds world).flatMap fun r => r.1.failedLookups r.2).length ∧
      ∀ loop verdict, metrics.passes.count (loop, verdict) =
        (course rounds world).countP fun r => r.1.loop = loop ∧ r.1.verdict r.2 = verdict := by
  have hcounts := PassMetrics.Counts.empty.runAll rounds world
  have hreceipting := runAll_receipting rounds {} [] world
  simp only [List.nil_append, Nat.zero_add] at hcounts hreceipting
  refine ⟨fun c stores started tally hstarted htally => ?_, _, _, _, rfl, hreceipting,
    fun kind operation => ⟨hcounts.writes_add kind operation, ?_⟩, hcounts.lookupErrors,
    fun loop verdict => ?_⟩
  · have hround := tally_of_sync (hdots c stores (mem_of_mem_course hstarted)) htally
    have hlookups := length_failedLookups_sync htally
    rw [hround]
    simp only [Tally.add, Nat.zero_add, hlookups, and_self]
  · rw [hcounts.writes]
    exact List.countP_congr fun receipt _ => by simp
  · rw [hcounts.passes, List.count, List.countP_map]
    exact List.countP_congr fun r _ => by simp

/-! ### The shop and its config

Two rules passes, of which the first has its writes refused, with a pass for the config between
them. -/

namespace Shop

abbrev Cluster : Type := (Disturbed ServiceRole × Disturbed RoleBinding) × Disturbed Enforcement

def stores : Stores Cluster := ⟨Disturbed.store.inFirst.inFirst, Disturbed.store.inSecond.inFirst⟩

def rounds : List (Round Cluster) :=
  [.rules Pass.Shop.controller stores, .onboarding Disturbed.store.inSecond ["web.shop.mesh"],
    .rules Pass.Shop.controller stores]

def cluster : Cluster :=
  (({ memory := Pass.Shop.rules
      faults := [{ call := .create, kind := .conflict }, { call := .delete, kind := .conflict }] },
    { faults := [{ call := .create, kind := .alreadyExists }] }), {})

theorem result_sync :
    ∃ tally, (Pass.Shop.controller.sync stores cluster).report.result = .ok tally := by
  have hok : (Pass.Shop.controller.sync stores cluster).report.result.isOk = true := by decide +kernel
  cases hresult : (Pass.Shop.controller.sync stores cluster).report.result with
  | error => simp [hresult, Except.isOk, Except.toBool] at hok
  | ok tally => exact ⟨tally, rfl⟩

end Shop

theorem books_balance_shop :
    (∀ c stores, Round.rules c stores ∈ Shop.rounds → ∀ ns ∈ c.namespaces.keys,
      '.' ∉ ns.toList) ∧
    (∃ tally, (Pass.Shop.controller.sync Shop.stores Shop.cluster).report.result = .ok tally ∧
      tally.created = 0 ∧ tally.failed = 3 + 1 ∧ tally.domainErrors = 1) ∧
    ∃ metrics receipts after, runAll Shop.rounds ({}, Shop.cluster) = (metrics, after) ∧
      runAll (Shop.rounds.map Round.receipting) ({}, [], Shop.cluster) =
        (metrics, receipts, after) ∧
      metrics.writes.count (.serviceRole, .create, .ok) +
          metrics.writes.count (.serviceRole, .create, .error) =
        receipts.countP (Receipt.isOf .serviceRole .create) ∧
      metrics.lookupErrors = 2 ∧ metrics.passes.count (.rules, .ok) = 2 := by
  have hdots : ∀ c stores, Round.rules c stores ∈ Shop.rounds → ∀ ns ∈ c.namespaces.keys,
      '.' ∉ ns.toList := by
    intro c stores hmem
    have hnamespaces : ∀ ns ∈ Pass.Shop.controller.namespaces.keys, '.' ∉ ns.toList := by decide
    simp only [Shop.rounds, List.mem_cons, Round.rules.injEq, reduceCtorEq, List.not_mem_nil,
      or_false, false_or] at hmem
    obtain ⟨rfl, _⟩ | ⟨rfl, _⟩ := hmem
    · exact hnamespaces
    · exact hnamespaces
  obtain ⟨htallies, metrics, receipts, after, hrun, hreceipting, hwrites, hlookups, hpasses⟩ :=
    books_balance Shop.rounds Shop.cluster hdots
  obtain ⟨tally, hresult⟩ := Shop.result_sync
  obtain ⟨hcreated, _, _, hfailed, herrors⟩ :=
    htallies Pass.Shop.controller Shop.stores Shop.cluster tally List.mem_cons_self hresult
  refine ⟨hdots, ⟨tally, hresult, hcreated.trans ?_, hfailed.trans ?_, herrors.trans ?_⟩, metrics,
    receipts, after, hrun, hreceipting, (hwrites _ _).1, hlookups.trans ?_,
    (hpasses _ _).trans ?_⟩
  all_goals decide +kernel

end MeshPolicy
