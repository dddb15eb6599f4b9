import Mathlib.Data.List.Forall2
import Mathlib.Data.String.Basic
import MeshPolicy.Proofs.LiveIndex.Claims

/-! # A live index over any history of claims

Claims come in any order, again and again, and for identities that nobody has listed. None of them
changes what the others are answered, and what is left in the end depends only on which identities
have been claimed.

* `ObjectId.Precedes`: the order of identities, by namespace and then by name.
* `LiveIndex.answersTo`: the answers to a row of claims. `AnswersClaim`: what the answer to a claim is,
  said of the listing. `LeftOver`: what nobody has claimed, said of the listing and the claims.
* `answersTo_eq`: every claim is answered as if it were the only one.
* `claims_keep_books`: an index of named objects answers every row of claims from the listing, and
  leaves over what was listed and never claimed.
-/

namespace MeshPolicy
set_option autoImplicit false

/-! ## The order of identities -/

/-- By namespace, and within a namespace by name. -/
def ObjectId.Precedes (a b : ObjectId) : Prop := a.ns < b.ns ∨ a.ns = b.ns ∧ a.name < b.name

theorem ObjectId.compare_eq_lt_iff {a b : ObjectId} : compare a b = .lt ↔ a.Precedes b := by
  show compareLex (compareOn ObjectId.ns) (compareOn ObjectId.name) a b = .lt ↔ _
  simp only [compareLex, compareOn, Ordering.then_eq_lt, compare_lt_iff_lt, compare_eq_iff_eq,
    Precedes]

namespace LiveIndex

variable {σ : Type}

/-! ## Rows of claims -/

/-- The answers to claims that are made one after another. -/
def answersTo (live : LiveIndex σ) : List ObjectId → List (Option (Object σ))
  | [] => []
  | id :: rest => (live.claim id).1 :: (live.claim id).2.answersTo rest

theorem claim_fst (live : LiveIndex σ) (id : ObjectId) : (live.claim id).1 = live.find? id := by
  unfold claim find?
  cases live.entries.get? id <;> rfl

theorem find?_claim (live : LiveIndex σ) (id : ObjectId) : (live.claim id).2.find? = live.find? :=
  find?_claimAll live [id]

/-- Earlier claims change no answer. -/
theorem answersTo_eq (live : LiveIndex σ) (ids : List ObjectId) :
    live.answersTo ids = ids.map live.find? := by
  induction ids generalizing live with
  | nil => rfl
  | cons id rest ih => rw [answersTo, claim_fst, ih, find?_claim, List.map_cons]

/-! ## Answers -/

/-- The answer to a claim: the last listed object of the identity, or none if there is none. -/
inductive AnswersClaim (objects : List (Object σ)) (id : ObjectId) : Option (Object σ) → Prop where
  | live {before after : List (Object σ)} {object : Object σ}
      (hlisted : objects = before ++ object :: after) (hid : object.id? = some id)
      (hlast : ∀ later ∈ after, later.id? ≠ some id) : AnswersClaim objects id (some object)
  | unlisted (h : ∀ object ∈ objects, object.id? ≠ some id) : AnswersClaim objects id none

theorem answersClaim_find? {objects : List (Object σ)} {live : LiveIndex σ}
    (h : ofObjects? objects = some live) (id : ObjectId) :
    AnswersClaim objects id (live.find? id) := by
  have hfind := find?_ofObjects h id
  cases hlive : live.find? id with
  | none =>
    rw [hlive] at hfind
    exact .unlisted fun object hobject hid =>
      absurd (List.find?_eq_none.1 hfind.symm object (by simpa using hobject)) (by simp [hid])
  | some object =>
    rw [hlive] at hfind
    obtain ⟨hid, before, after, hlisted, hlast⟩ := List.find?_eq_some_iff_append.1 hfind.symm
    -- The listing is searched from its end, so that what comes before the find was listed later.
    have hlisted : objects = after.reverse ++ object :: before.reverse := by
      simpa using congrArg List.reverse hlisted
    exact .live hlisted (by simpa using hid) fun later hlater => by
      simpa using hlast later (by simpa using hlater)

/-! ## What is left over -/

/-- The identities that were listed and never claimed, ascending and each once. -/
structure LeftOver (objects : List (Object σ)) (claimed left : List ObjectId) : Prop where
  ascending : left.Pairwise ObjectId.Precedes
  once : left.Nodup
  exact : ∀ id, id ∈ left ↔ (∃ object ∈ objects, object.id? = some id) ∧ id ∉ claimed

theorem AnswersClaim.ne_none_iff {objects : List (Object σ)} {id : ObjectId}
    {answer : Option (Object σ)} (h : AnswersClaim objects id answer) :
    answer ≠ none ↔ ∃ object ∈ objects, object.id? = some id := by
  cases h with
  | live hlisted hid => simpa using ⟨_, by simp [hlisted], hid⟩
  | unlisted h => simpa using h

theorem leftOver_unclaimed {objects : List (Object σ)} {live : LiveIndex σ}
    (h : ofObjects? objects = some live) (ids : List ObjectId) :
    LeftOver objects ids (live.claimAll ids).unclaimed where
  ascending := (SortedMap.ascending _).imp ObjectId.compare_eq_lt_iff.1
  once := nodup_unclaimed _
  exact id := by rw [mem_unclaimed_claimAll h, (answersClaim_find? h id).ne_none_iff]

/-- For named objects and any row of claims: each claim is answered with the last listed object of its
identity, whatever was claimed before, and in the end just those identities are left over, ascending
and each once, that were listed and never claimed. -/
theorem claims_keep_books {objects : List (Object σ)} (hnamed : ∀ object ∈ objects, object.id? ≠ none)
    (ids : List ObjectId) :
    ∃ live, ofObjects? objects = some live ∧
      List.Forall₂ (AnswersClaim objects) ids (live.answersTo ids) ∧
      LeftOver objects ids (live.claimAll ids).unclaimed := by
  obtain ⟨live, hlive⟩ := ofObjects?_of_named fun object hobject =>
    Option.ne_none_iff_exists'.1 (hnamed object hobject)
  have hanswers : List.Forall₂ (AnswersClaim objects) ids (ids.map live.find?) := by
    rw [List.forall₂_map_right_iff, List.forall₂_same]
    exact fun id _ => answersClaim_find? hlive id
  refine ⟨live, hlive, ?_, leftOver_unclaimed hlive ids⟩
  rw [answersTo_eq]
  exact hanswers

/-! ### A listing that repeats an identity -/

namespace Relisted

def objects : List (Object Nat) :=
  [.inNamespace "a" "x" 1, .inNamespace "a" "y" 2, .inNamespace "a" "x" 3]

/-- An identity that nobody has listed, and one that is claimed again. -/
def claims : List ObjectId := [⟨"c", "x"⟩, ⟨"a", "x"⟩, ⟨"a", "x"⟩]

theorem named : ∀ object ∈ objects, object.id? ≠ none := by decide

end Relisted

theorem claims_keep_books_relisted :
    (∀ object ∈ Relisted.objects, object.id? ≠ none) ∧
    ∃ live, ofObjects? Relisted.objects = some live ∧
      List.Forall₂ (AnswersClaim Relisted.objects) Relisted.claims (live.answersTo Relisted.claims) ∧
      LeftOver Relisted.objects Relisted.claims (live.claimAll Relisted.claims).unclaimed :=
  ⟨Relisted.named, claims_keep_books Relisted.named Relisted.claims⟩

example :
    (ofObjects? Relisted.objects).map (fun live =>
      ((live.answersTo Relisted.claims).map (Option.map Object.spec),
        (live.claimAll Relisted.claims).unclaimed)) =
      some ([none, some 3, some 3], [⟨"a", "y"⟩]) := by
  decide +kernel

end LiveIndex

end MeshPolicy
