import MeshPolicy.Proofs.Pass.Convergence
import MeshPolicy.Proofs.Pass.Tallies

/-! # A second pass writes nothing

What a pass leaves behind asks for no further write, so that a second pass over the same answers
only reports what it skips.

* `tally_of_unsent`: without writes, a tally counts the malformed roles and nothing else.
* `Settles.requestsFor_eq_nil`: a settled kind takes no write.
-/

namespace MeshPolicy.Pass
set_option autoImplicit false

/-! ## The tally of a pass without writes -/

theorem tally_of_unsent {entries : List Entry} (h : entries.filterMap Entry.sent? = [])
    (tally : Tally) : entries.foldl Entry.tally tally =
      { tally with failed := tally.failed + entries.countP Entry.isMalformed } := by
  have hreceipts : entries.filterMap Entry.receipt? = [] := by
    rw [List.filterMap_eq_nil_iff] at h ⊢
    intro entry hentry
    have hunsent := h entry hentry
    cases entry with
    | rules => cases hunsent
    | binding => cases hunsent
    | _ => rfl
  rw [foldl_tally, hreceipts]
  rfl

/-! ## A settled kind -/

/-- A kind that is settled takes no write: everything wanted is there as it is wanted, and the rest
is shielded. -/
theorem Settles.requestsFor_eq_nil {σ ω : Type} [DecidableEq σ] {store : Store σ ω}
    {contract : store.Contract} {failed : SortedSet String} {wants : List (ObjectId × Object σ)}
    {before : Contents σ} {world world' : ω} {live : LiveIndex σ}
    (h : Settles failed wants before (contract.contents world))
    (hl : Lists contract world world' live) : requestsFor failed wants live = [] := by
  obtain ⟨objects, _, hlive⟩ := hl.listed
  refine Pass.requestsFor_eq_nil hlive (fun want hwant => ?_) (fun id hfound hnot => ?_)
  · rw [hl.find?]
    exact h.wanted want hwant
  · rw [hl.find?, h.unwanted id hnot] at hfound
    by_contra hfree
    exact hfound (if_neg hfree)

/-! ## The second pass -/

/-- Of two passes over the same answers and stores that keep their contract, the second sends no
write, so that the stores receive none, and counts only the malformed roles as failures, if no domain
lists a role twice. -/
theorem rerun_sends_nothing {ω₁ ω₂ : Type} {rules : Store ServiceRole ω₁}
    {bindings : Store RoleBinding ω₂} (rulesContract : rules.Contract)
    (bindingsContract : bindings.Contract) (answers : Answers) (namespaces : SortedSet String)
    (dnsSuffix : String) {world : ω₁ × ω₂} (hr : rulesContract.Sound world.1)
    (hb : bindingsContract.Sound world.2) (hroles : NoRoleTwice answers namespaces.keys) :
    ∃ first between second after,
      (ofStores answers namespaces dnsSuffix rules bindings).run world = (first, between) ∧
      (ofStores answers namespaces dnsSuffix rules bindings).run between = (second, after) ∧
      second.sent = [] ∧
      (∀ log, (ofStores answers namespaces dnsSuffix rules bindings).logging.run (log, between) =
        (second, log, after)) ∧
      second.result = .ok
        { created := 0, updated := 0, deleted := 0,
          failed := (malformedRoles answers namespaces.keys).length,
          domainErrors := (failedDomains answers namespaces.keys).size } := by
  obtain ⟨first, between, hfirst, _, hsettled⟩ :=
    run_settles answers namespaces dnsSuffix rulesContract bindingsContract hr hb hroles
  obtain ⟨rulesLive, bindingsLive, listed, entries, after, hrules, hbindings, hperform, hsecond⟩ :=
    run_ofStores answers namespaces dnsSuffix rulesContract bindingsContract hsettled.rulesSound
      hsettled.bindingsSound
  have hentries : (performAll _ _ _).1 = entries := congrArg Prod.fst hperform
  have hunsent : entries.filterMap Entry.sent? = [] := by
    rw [← hentries, sent_performAll, List.eq_nil_iff_forall_not_mem]
    intro sent hmem
    rw [mem_sent_plan, hsettled.rules.requestsFor_eq_nil hrules,
      hsettled.bindings.requestsFor_eq_nil hbindings] at hmem
    simp at hmem
  have hmalformed : entries.countP Entry.isMalformed =
      (malformedRoles answers namespaces.keys).length := by
    rw [← hentries]
    exact countP_malformed_entries _ _ _ _
  refine ⟨first, between, _, after, hfirst, hsecond, hunsent, fun log => ?_, ?_⟩
  · rw [run_logging, hsecond]
    simp only [Report.sent, hunsent, List.map_nil, List.append_nil]
  · simp only [tallyOf, tally_of_unsent hunsent, hmalformed, Nat.zero_add]

theorem rerun_sends_nothing_shop : ∃ first between second after,
    (ofStores (answersOf Shop.lookup) Shop.namespaces "mesh" Disturbed.store Disturbed.store).run
      Shop.world = (first, between) ∧
    (ofStores (answersOf Shop.lookup) Shop.namespaces "mesh" Disturbed.store Disturbed.store).run
      between = (second, after) ∧
    second.sent = [] ∧ second.result = .ok { failed := 1, domainErrors := 1 } := by
  obtain ⟨first, between, second, after, hfirst, hsecond, hsent, _, hresult⟩ :=
    rerun_sends_nothing Disturbed.contract Disturbed.contract (answersOf Shop.lookup)
      Shop.namespaces "mesh" Shop.sound_rules Shop.sound_bindings Shop.noRoleTwice
  have hmalformed : (malformedRoles (answersOf Shop.lookup) Shop.namespaces.keys).length = 1 := by
    decide
  have hfailed : (failedDomains (answersOf Shop.lookup) Shop.namespaces.keys).size = 1 := by decide
  rw [hmalformed, hfailed] at hresult
  exact ⟨first, between, second, after, hfirst, hsecond, hsent, hresult⟩

end MeshPolicy.Pass
