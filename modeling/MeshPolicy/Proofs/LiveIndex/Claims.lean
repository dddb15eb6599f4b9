import MeshPolicy.LiveIndex

/-! # What a live index holds

* `find?_ofObjects`: an index answers with the last listed object of an identity.
* `get?_claimAll`, `find?_claimAll`: claims mark entries and change nothing else.
* `mem_unclaimed_claimAll`: what is left are the listed identities that were never claimed.
-/

namespace MeshPolicy.LiveIndex
set_option autoImplicit false

variable {σ : Type}

/-! ## Indexing a listing -/

theorem lookup_entries {objects : List (Object σ)} {entries : List (ObjectId × LiveObject σ)}
    (h : objects.mapM entry? = some entries) (id : ObjectId) :
    entries.reverse.lookup id =
      (objects.reverse.find? fun o => o.id? == some id).map fun o => { object := o } := by
  induction objects generalizing entries with
  | nil =>
    cases h
    rfl
  | cons o rest ih =>
    simp only [List.mapM_cons, entry?, Option.pure_def, Option.bind_eq_bind,
      Option.bind_eq_some_iff, Option.map_eq_some_iff, Option.some.injEq] at h
    obtain ⟨_, ⟨own, hown, rfl⟩, tail, htail, rfl⟩ := h
    rw [List.reverse_cons, List.lookup_append, ih htail, List.reverse_cons, List.find?_append,
      Option.map_or]
    congr 1
    by_cases hid : own = id
    · simp [hown, hid]
    · simp [hown, hid, List.lookup_cons, beq_false_of_ne (Ne.symm hid)]

theorem get?_ofObjects {objects : List (Object σ)} {live : LiveIndex σ}
    (h : ofObjects? objects = some live) (id : ObjectId) :
    live.entries.get? id =
      (objects.reverse.find? fun o => o.id? == some id).map fun o => { object := o } := by
  obtain ⟨entries, hentries, rfl⟩ := Option.map_eq_some_iff.1 h
  rw [SortedMap.get?_ofList, lookup_entries hentries]

/-- The last listed object of an identity counts. -/
theorem find?_ofObjects {objects : List (Object σ)} {live : LiveIndex σ}
    (h : ofObjects? objects = some live) (id : ObjectId) :
    live.find? id = objects.reverse.find? fun o => o.id? == some id := by
  rw [find?, get?_ofObjects h, Option.map_map]
  exact Option.map_id'

theorem ofObjects?_of_named {objects : List (Object σ)} (h : ∀ o ∈ objects, ∃ id, o.id? = some id) :
    ∃ live, ofObjects? objects = some live := by
  suffices ∃ entries, objects.mapM entry? = some entries by
    obtain ⟨entries, hentries⟩ := this
    exact ⟨_, Option.map_eq_some_iff.2 ⟨entries, hentries, rfl⟩⟩
  induction objects with
  | nil => exact ⟨[], rfl⟩
  | cons o rest ih =>
    obtain ⟨id, hid⟩ := h o (by simp)
    obtain ⟨entries, hentries⟩ := ih fun o ho => h o (by simp [ho])
    exact ⟨(id, { object := o }) :: entries, by simp [ entry?, hid, hentries]⟩

/-! ## Claiming -/

theorem get?_claim (live : LiveIndex σ) (id x : ObjectId) :
    (live.claim id).2.entries.get? x =
      (live.entries.get? x).map fun e => { e with claimed := e.claimed || x == id } := by
  unfold claim
  by_cases hx : x = id
  · subst hx
    cases hid : live.entries.get? x <;> simp [hid]
  · have hsame :
        (fun e : LiveObject σ => { e with claimed := e.claimed || x == id }) = fun e => e := by
      funext e
      rw [beq_false_of_ne hx, Bool.or_false]
    rw [hsame, Option.map_id']
    cases hid : live.entries.get? id <;> simp [hx]

theorem get?_claimAll (live : LiveIndex σ) (ids : List ObjectId) (x : ObjectId) :
    (live.claimAll ids).entries.get? x =
      (live.entries.get? x).map fun e => { e with claimed := e.claimed || ids.contains x } := by
  unfold claimAll
  induction ids generalizing live with
  | nil => simp
  | cons id rest ih =>
    rw [List.foldl_cons, ih, get?_claim, Option.map_map]
    congr 1
    funext e
    simp only [Function.comp_apply, List.contains_cons, Bool.or_assoc]

theorem find?_claimAll (live : LiveIndex σ) (ids : List ObjectId) :
    (live.claimAll ids).find? = live.find? := by
  funext id
  rw [find?, get?_claimAll, Option.map_map]
  rfl

theorem claimAll_append (live : LiveIndex σ) (ids ids' : List ObjectId) :
    live.claimAll (ids ++ ids') = (live.claimAll ids).claimAll ids' :=
  List.foldl_append

/-! ## What is left -/

theorem nodup_unclaimed (live : LiveIndex σ) : live.unclaimed.Nodup := SortedMap.nodup_keys _

theorem mem_unclaimed {live : LiveIndex σ} {id : ObjectId} :
    id ∈ live.unclaimed ↔ ∃ e, live.entries.get? id = some e ∧ e.claimed = false := by
  simp [unclaimed, SortedMap.mem_keys_filter]

theorem mem_unclaimed_claimAll {objects : List (Object σ)} {live : LiveIndex σ}
    (h : ofObjects? objects = some live) (ids : List ObjectId) (id : ObjectId) :
    id ∈ (live.claimAll ids).unclaimed ↔ live.find? id ≠ none ∧ id ∉ ids := by
  rw [mem_unclaimed, get?_claimAll, find?, get?_ofObjects h]
  cases objects.reverse.find? fun o => o.id? == some id <;> simp

end MeshPolicy.LiveIndex
