/-! # Labelled counters

A counter counts events by a label. Only the labels that were counted are listed.

* `Counter.bump`, `Counter.count`: one more event, and the number of events so far.
* `count_bump`: each operation seen through `count`.
-/

namespace MeshPolicy
set_option autoImplicit false

/-- How often each label was counted; a label that is listed was counted at least once. -/
structure Counter (α : Type) where
  entries : List (α × Nat) := []
  deriving DecidableEq, Repr

namespace Counter

variable {α : Type} [DecidableEq α]

instance : EmptyCollection (Counter α) := ⟨{}⟩

def countIn (label : α) : List (α × Nat) → Nat
  | [] => 0
  | (l, n) :: rest => if l = label then n else countIn label rest

def bumpIn (label : α) : List (α × Nat) → List (α × Nat)
  | [] => [(label, 1)]
  | (l, n) :: rest => if l = label then (l, n + 1) :: rest else (l, n) :: bumpIn label rest

def count (counter : Counter α) (label : α) : Nat := countIn label counter.entries

def bump (counter : Counter α) (label : α) : Counter α := ⟨bumpIn label counter.entries⟩

@[simp] theorem count_empty (label : α) : (∅ : Counter α).count label = 0 := rfl

theorem countIn_bumpIn (label l : α) (entries : List (α × Nat)) :
    countIn l (bumpIn label entries) = countIn l entries + if label = l then 1 else 0 := by
  induction entries with
  | nil => simp [bumpIn, countIn]
  | cons e rest ih =>
    obtain ⟨l', n⟩ := e
    simp only [bumpIn]
    split
    next h =>
      subst h
      by_cases hl : l' = l <;> simp [countIn, hl]
    next h =>
      by_cases hl : l' = l
      · subst hl
        have : ¬label = l' := fun e => h e.symm
        simp [countIn, this]
      · simp [countIn, hl, ih]

@[simp] theorem count_bump (counter : Counter α) (label l : α) :
    (counter.bump label).count l = counter.count l + if label = l then 1 else 0 :=
  countIn_bumpIn label l counter.entries

end Counter

end MeshPolicy
