/-! # Cutting a text at a separator

* `splitFirst`, `splitLast`: the parts before and after the first or the last separator.
* `dropStart?`: what follows a given beginning.
* `splitFirst_eq_some_iff`, `splitLast_eq_some_iff`: the cut is where it is said to be.
-/

namespace MeshPolicy.Text
set_option autoImplicit false

/-- The parts before and after the first `sep`. -/
def splitFirst (sep : Char) : List Char → Option (List Char × List Char)
  | [] => none
  | c :: rest =>
    if c = sep then some ([], rest)
    else (splitFirst sep rest).map fun parts => (c :: parts.1, parts.2)

/-- The parts before and after the last `sep`. -/
def splitLast (sep : Char) (cs : List Char) : Option (List Char × List Char) :=
  (splitFirst sep cs.reverse).map fun parts => (parts.2.reverse, parts.1.reverse)

/-- What follows `start`, if the text begins with it. -/
def dropStart? (start : String) (s : String) : Option String :=
  (start.toList.isPrefixOf? s.toList).map String.ofList

theorem splitFirst_eq_some_iff {sep : Char} {cs before after : List Char} :
    splitFirst sep cs = some (before, after) ↔ cs = before ++ sep :: after ∧ sep ∉ before := by
  induction cs generalizing before with
  | nil => simp [splitFirst]
  | cons c rest ih =>
    by_cases h : c = sep
    · subst h
      cases before with
      | nil => simp [splitFirst, eq_comm]
      | cons b bs =>
        simp only [splitFirst, if_true, Option.some.injEq, Prod.mk.injEq, List.cons_append,
          List.cons.injEq, List.mem_cons, not_or]
        constructor
        · intro h'
          obtain ⟨h, _⟩ := h'
          exact absurd h (by simp)
        · intro h'
          obtain ⟨⟨rfl, _⟩, h, _⟩ := h'
          exact absurd rfl h
    · cases before with
      | nil => simp [splitFirst, h]
      | cons b bs =>
        simp only [splitFirst, h, if_false, Option.map_eq_some_iff, Prod.exists, Prod.mk.injEq,
          List.cons.injEq, List.cons_append, List.mem_cons, not_or]
        constructor
        · intro h'
          obtain ⟨x, y, hxy, ⟨rfl, rfl⟩, rfl⟩ := h'
          obtain ⟨h1, h2⟩ := ih.1 hxy
          exact ⟨⟨rfl, h1⟩, fun e => h e.symm, h2⟩
        · intro h'
          obtain ⟨⟨rfl, hr⟩, _, hb⟩ := h'
          exact ⟨bs, after, ih.2 ⟨hr, hb⟩, ⟨rfl, rfl⟩, rfl⟩

theorem splitFirst_eq_none_iff {sep : Char} {cs : List Char} :
    splitFirst sep cs = none ↔ sep ∉ cs := by
  induction cs with
  | nil => simp [splitFirst]
  | cons c rest ih =>
    by_cases h : c = sep
    · simp [splitFirst, h]
    · simp [splitFirst, h, ih, Ne.symm h]

theorem splitLast_eq_none_iff {sep : Char} {cs : List Char} :
    splitLast sep cs = none ↔ sep ∉ cs := by
  simp [splitLast, splitFirst_eq_none_iff]

theorem splitLast_eq_some_iff {sep : Char} {cs before after : List Char} :
    splitLast sep cs = some (before, after) ↔ cs = before ++ sep :: after ∧ sep ∉ after := by
  simp only [splitLast, Option.map_eq_some_iff, Prod.exists, Prod.mk.injEq]
  constructor
  · intro h'
    obtain ⟨x, y, hxy, rfl, rfl⟩ := h'
    obtain ⟨h1, h2⟩ := splitFirst_eq_some_iff.1 hxy
    refine ⟨?_, by simpa using h2⟩
    have := congrArg List.reverse h1
    simpa using this
  · intro h'
    obtain ⟨rfl, h⟩ := h'
    refine ⟨after.reverse, before.reverse, splitFirst_eq_some_iff.2 ⟨by simp, ?_⟩, ?_⟩
    · simpa using h
    simp

end MeshPolicy.Text
