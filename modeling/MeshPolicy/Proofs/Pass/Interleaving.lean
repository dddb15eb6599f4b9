import MeshPolicy.Proofs.Pass.Sweep
import Mathlib.Logic.Function.Basic

/-! # Passes that look up on the way

A pass makes its look-ups one namespace at a time and writes in between. It claims each object as
it meets the want for it. None of this shows: it sends what it would send if it had the answers of
all look-ups, and its plan, before the first write.

* `Controller`: what a pass works with, beside the stores.
* `Progress`, `Progress.meet`, `Tour`, `Controller.visit`, `Controller.sync`: the interleaved pass.
* `foldl_meet`, `foldl_visit`: where the wants of a namespace take it, and those of all namespaces.
* `sync_eq_run`: it reports what `Pass.run` reports, and leaves the same world.
* `sync_recording`, `sync_logging`, `Delivers`: the stores receive just what it sends.
* `sync_isolates_failures`: only its listings can fail it, and no write changes what it sends.
-/

namespace MeshPolicy
set_option autoImplicit false

open Naming

namespace Pass

variable {ω : Type}

/-! ## Steps taken apart -/

theorem settle_claimAll (rules : LiveIndex ServiceRole) (bindings : LiveIndex RoleBinding)
    (rulesIds bindingIds : List ObjectId) :
    settle (rules.claimAll rulesIds) (bindings.claimAll bindingIds) = settle rules bindings := by
  funext want
  cases want <;> simp only [settle, converge, LiveIndex.find?_claimAll]

theorem performAll_append (pass : Pass ω) (steps steps' : List Step) (world : ω) :
    pass.performAll (steps ++ steps') world =
      let (entries, between) := pass.performAll steps world
      let (entries', after) := pass.performAll steps' between
      (entries ++ entries', after) := by
  induction steps generalizing world with
  | nil => rfl
  | cons step rest ih => simp only [List.cons_append, performAll, ih]

/-- Only its stores matter for how a pass carries out a step. -/
theorem perform_of_stores {pass other : Pass ω} (h : pass.stores = other.stores) :
    pass.perform = other.perform := by
  obtain ⟨_, _, _, rules, bindings⟩ := pass
  cases h
  funext world step
  cases step <;> rfl

theorem performAll_of_stores {pass other : Pass ω} (h : pass.stores = other.stores) :
    pass.performAll = other.performAll := by
  funext steps world
  induction steps generalizing world with
  | nil => rfl
  | cons step rest ih => simp only [performAll, perform_of_stores h, ih]

/-! ## The interleaved pass -/

structure Progress (ω : Type) where
  rules : LiveIndex ServiceRole
  bindings : LiveIndex RoleBinding
  entries : List Entry := []
  world : ω

/-- Claims the live object of a want, and makes it so. -/
def Progress.meet (pass : Pass ω) (p : Progress ω) (want : Wanted) : Progress ω :=
  let (entry, world) := pass.perform p.world (settle p.rules p.bindings want)
  { rules := p.rules.claimAll want.rulesId?.toList
    bindings := p.bindings.claimAll want.bindingId?.toList
    entries := p.entries ++ [entry]
    world }

structure Tour (ω : Type) where
  /-- The domains that were looked up, in order. -/
  asked : List String := []
  failed : SortedSet String := ∅
  progress : Progress ω

def noteFailure (answers : Answers) (failed : SortedSet String) (ns : String) : SortedSet String :=
  match answers ns with
  | .error _ => failed.insert (domainOfNamespace ns) ()
  | .ok _ => failed

/-- What an interleaved pass reports, and the domains that it has looked up. -/
structure Synced (ω : Type) where
  report : Report
  asked : List String := []
  world : ω

/-- How an authority answers for a domain, after the look-ups that it was asked for before. -/
abbrev Authority := List String → String → Except LookupError Domain

structure Controller where
  authority : Authority
  namespaces : SortedSet String
  dnsSuffix : String

namespace Controller

def answersAfter (c : Controller) (asked : List String) : Answers :=
  fun ns => c.authority asked (domainOfNamespace ns)

def pass (c : Controller) (stores : Stores ω) (answers : Answers) : Pass ω where
  answers := answers
  namespaces := c.namespaces
  dnsSuffix := c.dnsSuffix
  rules := stores.rules
  bindings := stores.bindings

/-- Looks up the domain of a namespace and meets what its roles ask for. -/
def visit (c : Controller) (stores : Stores ω) (t : Tour ω) (ns : String) : Tour ω :=
  let answers := c.answersAfter t.asked
  { asked := t.asked ++ [domainOfNamespace ns]
    failed := noteFailure answers t.failed ns
    progress := (wantedByNamespace c.dnsSuffix answers ns).foldl
      (Progress.meet (c.pass stores answers)) t.progress }

/-- Deletes what was never claimed, except where a look-up has failed. -/
def finish (c : Controller) (stores : Stores ω) (t : Tour ω) : Synced ω :=
  let (entries, world) := (c.pass stores (c.answersAfter t.asked)).performAll
    (t.progress.rules.unclaimed.map (discard .rules t.failed) ++
      t.progress.bindings.unclaimed.map (discard .binding t.failed)) t.progress.world
  { report :=
      { entries := t.progress.entries ++ entries
        result := .ok (tallyOf t.failed (t.progress.entries ++ entries)) }
    asked := t.asked
    world }

def sync (c : Controller) (stores : Stores ω) (world : ω) : Synced ω :=
  match stores.list world with
  | (.error error, world) => { report := { result := .error error }, world }
  | (.ok listing, world) =>
    match LiveIndex.ofObjects? listing.rules, LiveIndex.ofObjects? listing.bindings with
    | some rules, some bindings =>
      c.finish stores
        (c.namespaces.keys.foldl (c.visit stores) { progress := { rules, bindings, world } })
    | _, _ => { report := { result := .error .unnamed }, world }

end Controller

/-! ## All wants at once -/

/-- A pass meets wants by carrying out the steps for them, each compared with what was listed. -/
theorem foldl_meet (pass : Pass ω) (wants : List Wanted) (p : Progress ω) :
    wants.foldl (Progress.meet pass) p =
      { rules := p.rules.claimAll (wants.filterMap Wanted.rulesId?)
        bindings := p.bindings.claimAll (wants.filterMap Wanted.bindingId?)
        entries := p.entries ++ (pass.performAll (wants.map (settle p.rules p.bindings)) p.world).1
        world := (pass.performAll (wants.map (settle p.rules p.bindings)) p.world).2 } := by
  induction wants generalizing p with
  | nil => simp [performAll, LiveIndex.claimAll]
  | cons want rest ih =>
    rw [List.foldl_cons, ih]
    -- The rest is compared with a live index in which `want` is claimed, which finds the same.
    simp only [Progress.meet, settle_claimAll, ← LiveIndex.claimAll_append, List.map_cons,
      performAll, List.append_assoc, List.singleton_append]
    cases want <;> rfl

theorem foldl_noteFailure (answers : Answers) (namespaces : List String) :
    namespaces.foldl (noteFailure answers) ∅ = failedDomains answers namespaces := by
  rw [failedDomains, SortedMap.ofList, List.foldl_filterMap]
  refine congrArg (fun f => List.foldl f ∅ namespaces) (funext fun failed => funext fun ns => ?_)
  unfold noteFailure
  cases answers ns <;> rfl

section Congr

variable {answers answers' : Answers}

theorem noteFailure_congr {ns : String} (h : answers ns = answers' ns)
    (failed : SortedSet String) :
    noteFailure answers failed ns = noteFailure answers' failed ns := by
  unfold noteFailure
  rw [h]

theorem wantedByNamespace_congr {ns : String} (h : answers ns = answers' ns) (dnsSuffix : String) :
    wantedByNamespace dnsSuffix answers ns = wantedByNamespace dnsSuffix answers' ns := by
  unfold wantedByNamespace
  rw [h]

theorem wanted_congr {namespaces : List String} (h : ∀ ns ∈ namespaces, answers ns = answers' ns)
    (dnsSuffix : String) :
    wanted dnsSuffix answers namespaces = wanted dnsSuffix answers' namespaces :=
  List.flatMap_congr fun ns hns => wantedByNamespace_congr (h ns hns) dnsSuffix

end Congr

namespace Controller

/-- The answers that namespaces get, one after the other. -/
def answersInTurn (c : Controller) : List String → List String → Answers
  | asked, [] => c.answersAfter asked
  | asked, ns :: rest =>
    Function.update (c.answersInTurn (asked ++ [domainOfNamespace ns]) rest) ns
      (c.answersAfter asked ns)

variable (c : Controller) (stores : Stores ω)

theorem answersInTurn_self (asked : List String) (ns : String) (rest : List String) :
    c.answersInTurn asked (ns :: rest) ns = c.answersAfter asked ns :=
  Function.update_self ..

theorem answersInTurn_later (asked : List String) {ns own : String} {rest : List String}
    (hnot : ns ∉ rest) (hown : own ∈ rest) : c.answersInTurn asked (ns :: rest) own =
      c.answersInTurn (asked ++ [domainOfNamespace ns]) rest own :=
  Function.update_of_ne (ne_of_mem_of_not_mem hown hnot) ..

theorem meet_answers (answers answers' : Answers) :
    Progress.meet (c.pass stores answers) = Progress.meet (c.pass stores answers') := by
  funext p want
  have hperform : (c.pass stores answers).perform = (c.pass stores answers').perform :=
    perform_of_stores rfl
  simp only [Progress.meet, hperform]

/-- A pass visits namespaces as if it had known the answers to all its look-ups. -/
theorem foldl_visit {namespaces : List String} (hn : namespaces.Nodup) (t : Tour ω) :
    namespaces.foldl (c.visit stores) t =
      { asked := t.asked ++ namespaces.map domainOfNamespace
        failed := namespaces.foldl (noteFailure (c.answersInTurn t.asked namespaces)) t.failed
        progress := (wanted c.dnsSuffix (c.answersInTurn t.asked namespaces) namespaces).foldl
          (Progress.meet (c.pass stores (c.answersInTurn t.asked namespaces))) t.progress } := by
  induction namespaces generalizing t with
  | nil => simp [wanted]
  | cons ns rest ih =>
    obtain ⟨hnot, hrest⟩ := List.nodup_cons.1 hn
    -- Of all answers, a visit uses the one for its own namespace, which no later one replaces.
    have hself := c.answersInTurn_self t.asked ns rest
    have hlater : ∀ own ∈ rest, c.answersInTurn t.asked (ns :: rest) own =
        c.answersInTurn (t.asked ++ [domainOfNamespace ns]) rest own := fun own hown =>
      c.answersInTurn_later t.asked hnot hown
    have hwanted : wanted c.dnsSuffix (c.answersInTurn t.asked (ns :: rest)) (ns :: rest) =
        wantedByNamespace c.dnsSuffix (c.answersAfter t.asked) ns ++
          wanted c.dnsSuffix (c.answersInTurn (t.asked ++ [domainOfNamespace ns]) rest) rest := by
      rw [← wantedByNamespace_congr hself, ← wanted_congr hlater]
      rfl
    rw [List.foldl_cons, ih hrest, Tour.mk.injEq]
    refine ⟨?_, ?_, ?_⟩
    · simp [visit]
    · have hfailed (failed : SortedSet String) (own : String) (hown : own ∈ rest) :=
        noteFailure_congr (hlater own hown) failed
      rw [List.foldl_cons, noteFailure_congr hself]
      exact (List.foldl_ext _ _ _ hfailed).symm
    · rw [hwanted, List.foldl_append, c.meet_answers stores _ (c.answersAfter t.asked)]
      rfl

/-! ## The interleaved pass is a pass -/

section Sync

variable {c stores} {world listed : ω}

theorem finish_foldl_visit (rules : LiveIndex ServiceRole) (bindings : LiveIndex RoleBinding) :
    c.finish stores
        (c.namespaces.keys.foldl (c.visit stores) { progress := { rules, bindings, world } }) =
      let pass := c.pass stores (c.answersInTurn [] c.namespaces.keys)
      let (entries, world) := pass.performAll (pass.stepsFor rules bindings) world
      { report := { entries, result := .ok (tallyOf pass.failed entries) }
        asked := c.namespaces.keys.map domainOfNamespace
        world } := by
  have hperform (asked : List String) : (c.pass stores (c.answersAfter asked)).performAll =
      (c.pass stores (c.answersInTurn [] c.namespaces.keys)).performAll := performAll_of_stores rfl
  rw [c.foldl_visit stores (SortedMap.nodup_keys _)]
  simp only [finish, foldl_meet, foldl_noteFailure, hperform, stepsFor, plan, sweep,
    performAll_append, List.nil_append, List.append_assoc]
  rfl

theorem pass_list (c : Controller) (answers : Answers) {result : Except StoreError Listing}
    (h : stores.list world = (result, listed)) :
    (c.pass stores answers).stores.list world = (result, listed) := h

theorem sync_of_unlisted {error : StoreError} (h : stores.list world = (.error error, listed)) :
    c.sync stores world = { report := { result := .error error }, world := listed } := by
  rw [sync, h]

/-- With all its look-ups made on the way, a pass does what it would do with their answers given. -/
theorem sync_of_listed {listing : Listing} (h : stores.list world = (.ok listing, listed))
    (hn : listing.Named) :
    c.sync stores world =
      { report := ((c.pass stores (c.answersInTurn [] c.namespaces.keys)).run world).1
        asked := c.namespaces.keys.map domainOfNamespace
        world := ((c.pass stores (c.answersInTurn [] c.namespaces.keys)).run world).2 } := by
  obtain ⟨rules, bindings, hrules, hbindings, hrun⟩ := run_of_listed (pass_list c _ h) hn
  rw [hrun, sync, h]
  simp only [hrules, hbindings, finish_foldl_visit]

theorem result_sync_of_listed {listing : Listing} (h : stores.list world = (.ok listing, listed))
    (hn : listing.Named) : ∃ tally, (c.sync stores world).report.result = .ok tally := by
  obtain ⟨_, _, _, _, hresult, _⟩ :=
    sent_of_listed (pass_list c (c.answersInTurn [] c.namespaces.keys) h) hn
  rw [sync_of_listed h hn]
  exact hresult

/-- What a pass looks up on the way might as well have been known before. It looks up the domains of
all namespaces in turn if it succeeds, and none if it fails. -/
theorem sync_eq (c : Controller) (stores : Stores ω) (world : ω) :
    c.sync stores world =
      { report := ((c.pass stores (c.answersInTurn [] c.namespaces.keys)).run world).1
        asked :=
          if ((c.pass stores (c.answersInTurn [] c.namespaces.keys)).run world).1.result.isOk then
            c.namespaces.keys.map domainOfNamespace
          else []
        world := ((c.pass stores (c.answersInTurn [] c.namespaces.keys)).run world).2 } := by
  rcases hlist : stores.list world with ⟨error | listing, listed⟩
  · rw [sync_of_unlisted hlist, run_of_unlisted (pass_list c _ hlist)]
    rfl
  · cases hrules : LiveIndex.ofObjects? listing.rules with
    | none =>
      rw [run_of_unplanned (pass_list c _ hlist) (by simp [planFor, hrules]), sync, hlist]
      simp only [hrules]
      rfl
    | some rules =>
      cases hbindings : LiveIndex.ofObjects? listing.bindings with
      | none =>
        rw [run_of_unplanned (pass_list c _ hlist) (by simp [planFor, hrules, hbindings]), sync,
          hlist]
        simp only [hrules, hbindings]
        rfl
      | some bindings =>
        have hsteps (answers : Answers) : (c.pass stores answers).planFor listing.rules
            listing.bindings = some ((c.pass stores answers).stepsFor rules bindings) := by
          simp [planFor, hrules, hbindings, stepsFor]
        rw [run_of_planned (pass_list c _ hlist) (hsteps _), sync, hlist]
        simp only [hrules, hbindings, finish_foldl_visit]
        rfl

theorem sync_eq_run :
    ((c.sync stores world).report, (c.sync stores world).world) =
      (c.pass stores (c.answersInTurn [] c.namespaces.keys)).run world := by
  rw [sync_eq]

theorem sent_sync_of_listing {ω' : Type} {others : Stores ω'} {world' : ω'}
    (hn : ∀ listing, (stores.list world).1 = .ok listing → listing.Named)
    (hsame : (others.list world').1 = (stores.list world).1) :
    (c.sync others world').report.sent = (c.sync stores world).report.sent := by
  rcases hlist : stores.list world with ⟨error | listing, listed⟩
  · rcases hlist' : others.list world' with ⟨result, listed'⟩
    obtain rfl : result = .error error := by rwa [hlist, hlist'] at hsame
    rw [sync_of_unlisted hlist, sync_of_unlisted hlist']
  · rcases hlist' : others.list world' with ⟨result, listed'⟩
    obtain rfl : result = .ok listing := by rwa [hlist, hlist'] at hsame
    have hnamed : listing.Named := hn listing (by rw [hlist])
    obtain ⟨rules, bindings, hrules, hbindings, _, hsent⟩ :=
      sent_of_listed (pass_list c _ hlist) hnamed
    obtain ⟨rules', bindings', hrules', hbindings', _, hsent'⟩ :=
      sent_of_listed (pass_list c _ hlist') hnamed
    obtain rfl : rules = rules' := Option.some.inj (hrules.symm.trans hrules')
    obtain rfl : bindings = bindings' := Option.some.inj (hbindings.symm.trans hbindings')
    rw [sync_of_listed hlist hnamed, sync_of_listed hlist' hnamed]
    exact hsent'.trans hsent.symm

theorem sync_fails_iff (hn : ∀ listing, (stores.list world).1 = .ok listing → listing.Named) :
    (∃ error, (c.sync stores world).report.result = .error error) ↔
      ∃ error, (stores.list world).1 = .error error := by
  rcases hlist : stores.list world with ⟨error | listing, listed⟩
  · rw [sync_of_unlisted hlist]
    exact ⟨fun _ => ⟨error, rfl⟩, fun _ => ⟨error, rfl⟩⟩
  · obtain ⟨tally, hresult⟩ := result_sync_of_listed (c := c) hlist (hn listing (by rw [hlist]))
    simp [hresult]

section Recording

variable {α : Type} (notes : Notes α) (c : Controller) (stores : Stores ω) (world : ω)

/-- A pass that looks up on the way is the same over stores that record as well. -/
theorem sync_recording (noted : List α) :
    c.sync (stores.recording notes) (noted, world) =
      { report := (c.sync stores world).report
        asked := (c.sync stores world).asked
        world := (noted ++ (c.sync stores world).report.notes notes,
          (c.sync stores world).world) } := by
  have hrun (answers : Answers) :
      (c.pass (stores.recording notes) answers).run (noted, world) =
        (((c.pass stores answers).run world).1,
          noted ++ ((c.pass stores answers).run world).1.notes notes,
          ((c.pass stores answers).run world).2) :=
    run_recording notes (c.pass stores answers) noted world
  simp only [sync_eq, hrun]

theorem sync_logging (log : List Received) :
    c.sync stores.logging (log, world) =
      { report := (c.sync stores world).report
        asked := (c.sync stores world).asked
        world := (log ++ (c.sync stores world).report.sent.map Sent.received,
          (c.sync stores world).world) } := by
  rw [Stores.logging, sync_recording, Report.notes_received]

/-- What a pass sends reaches the stores. -/
def Delivers : Prop :=
  ∀ log, (c.sync stores.logging (log, world)).world =
    (log ++ (c.sync stores world).report.sent.map Sent.received, (c.sync stores world).world)

theorem delivers : c.Delivers stores world := fun log => by rw [sync_logging]

end Recording

/-- A pass that looks up on the way does what `Pass.run` does. It fails if and only if a listing
does; then it has looked nothing up and has sent nothing. Otherwise it sends the same writes, in the
same order, over all stores that list the same, however the writes end. What it sends is what the
stores receive. -/
theorem sync_isolates_failures (c : Controller) (stores : Stores ω) (world : ω)
    (hn : ∀ listing, (stores.list world).1 = .ok listing → listing.Named) :
    ((c.sync stores world).report, (c.sync stores world).world) =
      (c.pass stores (c.answersInTurn [] c.namespaces.keys)).run world ∧
    ((∃ error, (c.sync stores world).report.result = .error error) ↔
      (∃ error, (stores.rules.list world).1 = .error error) ∨
        ∃ error, (stores.bindings.list (stores.rules.list world).2).1 = .error error) ∧
    ((∃ error, (c.sync stores world).report.result = .error error) →
      (c.sync stores world).asked = [] ∧ (c.sync stores world).report.sent = [] ∧
        (c.sync stores world).world = (stores.list world).2) ∧
    ∀ (ω' : Type) (others : Stores ω') (world' : ω'), c.Delivers others world' ∧
      ((others.list world').1 = (stores.list world).1 →
        (c.sync others world').report.sent = (c.sync stores world).report.sent) := by
  refine ⟨sync_eq_run, (sync_fails_iff hn).trans (stores.list_fails_iff world), fun hfails => ?_,
    fun _ others world' => ⟨c.delivers others world', sent_sync_of_listing hn⟩⟩
  obtain ⟨error, herror⟩ := (sync_fails_iff hn).1 hfails
  rcases hlist : stores.list world with ⟨result, listed⟩
  obtain rfl : result = .error error := by rwa [hlist] at herror
  rw [sync_of_unlisted hlist]
  exact ⟨rfl, rfl, rfl⟩

end Sync

end Controller

/-! ### The shop with stores that fail -/

namespace Shop

def controller : Controller := ⟨fun _ => lookup, namespaces, "mesh"⟩

/-- The same objects, where no create and no deletion succeeds. -/
def worldFailing : Disturbed ServiceRole × Disturbed RoleBinding :=
  ({ world.1 with faults := [{ call := .create, kind := .conflict, uses := 9 },
      { call := .delete, kind := .refused 503 "ServiceUnavailable" "unavailable", uses := 9 }] },
    { world.2 with faults := [{ call := .create, kind := .alreadyExists, uses := 9 }] })

theorem named_stores : ∀ found, (pass.stores.list world).1 = .ok found → found.Named := by
  intro found h
  rw [list_pass] at h
  cases h
  exact named

end Shop

theorem Controller.sync_isolates_failures_shop :
    (∀ found, (Shop.pass.stores.list Shop.world).1 = .ok found → found.Named) ∧
    (Shop.pass.stores.list Shop.worldFailing).1 = (Shop.pass.stores.list Shop.world).1 ∧
    (Shop.controller.sync Shop.pass.stores Shop.worldFailing).report.sent =
      (Shop.controller.sync Shop.pass.stores Shop.world).report.sent := by
  have hsame : (Shop.pass.stores.list Shop.worldFailing).1 = (Shop.pass.stores.list Shop.world).1 :=
    rfl
  obtain ⟨_, _, _, hsent⟩ :=
    Controller.sync_isolates_failures Shop.controller Shop.pass.stores Shop.world Shop.named_stores
  exact ⟨Shop.named_stores, hsame, (hsent _ Shop.pass.stores Shop.worldFailing).2 hsame⟩

end Pass

end MeshPolicy
