/-! # Finite maps listed in ascending key order

A `SortedMap κ ν` keeps its entries in one list whose keys strictly ascend, so that a map has one
representation and its listing is the order in which answers show it.

* `get?`, `insert`, `erase`, `ofList`: the operations; of several entries for one key the last wins.
* `keys`, `values`, `size`: the listing and its length.
* `get?_insert`, `get?_erase`: each operation seen through `get?`.
* `mem_keys`, `mem_values`, `mem_keys_filter`: the listing seen through `get?`.
* `get?_ofList`: what a map made from a list answers.
* `ext_get?`: two maps that answer every key alike are equal.
-/

namespace MeshPolicy
set_option autoImplicit false

def Ascending {κ : Type} [Ord κ] (keys : List κ) : Prop :=
  keys.Pairwise fun a b => compare a b = .lt

instance {κ : Type} [Ord κ] (keys : List κ) : Decidable (Ascending keys) :=
  inferInstanceAs (Decidable (keys.Pairwise _))

/-- A finite map from `κ` to `ν`, listed in ascending key order. -/
structure SortedMap (κ ν : Type) [Ord κ] where
  entries : List (κ × ν) := []
  ascending : Ascending (entries.map Prod.fst) := by exact List.Pairwise.nil

abbrev SortedSet (κ : Type) [Ord κ] := SortedMap κ Unit

namespace SortedMap

variable {κ ν : Type} [Ord κ]

instance : Inhabited (SortedMap κ ν) := ⟨{}⟩

instance : EmptyCollection (SortedMap κ ν) := ⟨{}⟩

theorem ext_entries {m n : SortedMap κ ν} (h : m.entries = n.entries) : m = n := by
  cases m; cases n; cases h; rfl

instance [DecidableEq κ] [DecidableEq ν] : DecidableEq (SortedMap κ ν) := fun m n =>
  decidable_of_iff (m.entries = n.entries) ⟨ext_entries, congrArg entries⟩

/-! ## Listing -/

def keys (m : SortedMap κ ν) : List κ := m.entries.map Prod.fst

def values (m : SortedMap κ ν) : List ν := m.entries.map Prod.snd

def size (m : SortedMap κ ν) : Nat := m.entries.length

def isEmpty (m : SortedMap κ ν) : Bool := m.entries.isEmpty

/-! ## Looking up -/

/-- The value listed with a key that compares equal to `k`. -/
def find (k : κ) : List (κ × ν) → Option ν
  | [] => none
  | (k', v) :: rest => if compare k k' = .eq then some v else find k rest

def get? (m : SortedMap κ ν) (k : κ) : Option ν := find k m.entries

def contains (m : SortedMap κ ν) (k : κ) : Bool := (m.get? k).isSome

/-! ## Changing -/

/-- Puts `(k, v)` where ascending order wants it, in the place of an entry with the same key. -/
def place (k : κ) (v : ν) : List (κ × ν) → List (κ × ν)
  | [] => [(k, v)]
  | (k', v') :: rest =>
    match compare k k' with
    | .lt => (k, v) :: (k', v') :: rest
    | .eq => (k, v) :: rest
    | .gt => (k', v') :: place k v rest

theorem mem_keys_place {k x : κ} {v : ν} {l : List (κ × ν)}
    (h : x ∈ (place k v l).map Prod.fst) : x = k ∨ x ∈ l.map Prod.fst := by
  induction l with
  | nil => simpa [place] using h
  | cons e rest ih =>
    obtain ⟨k', v'⟩ := e
    simp only [place] at h
    cases hc : compare k k' with
    | lt => simpa [hc] using h
    | eq =>
      rw [hc] at h
      simp only [List.map_cons, List.mem_cons] at h ⊢
      exact h.imp id Or.inr
    | gt =>
      rw [hc] at h
      simp only [List.map_cons, List.mem_cons] at h ⊢
      rcases h with h | h
      · exact Or.inr (Or.inl h)
      · exact (ih h).imp id Or.inr

theorem ascending_place [Std.TransOrd κ] [Std.LawfulEqOrd κ] (k : κ) (v : ν) {l : List (κ × ν)}
    (h : Ascending (l.map Prod.fst)) : Ascending ((place k v l).map Prod.fst) := by
  induction l with
  | nil => simp [place, Ascending]
  | cons e rest ih =>
    obtain ⟨k', v'⟩ := e
    have hhead := (List.pairwise_cons.1 h).1
    have hrest := (List.pairwise_cons.1 h).2
    simp only [place]
    cases hc : compare k k' with
    | lt =>
      refine List.pairwise_cons.2 ⟨fun x hx => ?_, h⟩
      rcases List.mem_cons.1 hx with rfl | hx
      · exact hc
      · exact Std.TransCmp.lt_trans hc (hhead x hx)
    | eq =>
      have hk : k = k' := Std.LawfulEqCmp.compare_eq_iff_eq.1 hc
      subst hk
      exact h
    | gt =>
      refine List.pairwise_cons.2 ⟨fun x hx => ?_, ih hrest⟩
      rcases mem_keys_place hx with rfl | hx
      · exact Std.OrientedCmp.gt_iff_lt.1 hc
      · exact hhead x hx

def insert [Std.TransOrd κ] [Std.LawfulEqOrd κ] (m : SortedMap κ ν) (k : κ) (v : ν) :
    SortedMap κ ν :=
  ⟨place k v m.entries, ascending_place k v m.ascending⟩

theorem ascending_filter {l : List (κ × ν)} (p : κ × ν → Bool)
    (h : Ascending (l.map Prod.fst)) : Ascending ((l.filter p).map Prod.fst) :=
  h.sublist (List.Sublist.map _ List.filter_sublist)

def filter (m : SortedMap κ ν) (p : κ → ν → Bool) : SortedMap κ ν :=
  ⟨m.entries.filter fun e => p e.1 e.2, ascending_filter _ m.ascending⟩

def erase (m : SortedMap κ ν) (k : κ) : SortedMap κ ν :=
  m.filter fun k' _ => compare k k' != .eq

/-- Inserts the entries in turn, so that a later one wins over an earlier one of the same key. -/
def ofList [Std.TransOrd κ] [Std.LawfulEqOrd κ] (l : List (κ × ν)) : SortedMap κ ν :=
  l.foldl (fun m e => m.insert e.1 e.2) ∅

def map {μ : Type} (f : κ → ν → μ) (m : SortedMap κ ν) : SortedMap κ μ :=
  ⟨m.entries.map fun e => (e.1, f e.1 e.2), by
    have h := m.ascending
    simpa [List.map_map, Function.comp_def] using h⟩

/-! ## Each operation through `get?` -/

section Lawful

variable [Std.LawfulEqOrd κ] [DecidableEq κ]

theorem find_cons (k k' : κ) (v : ν) (l : List (κ × ν)) :
    find k ((k', v) :: l) = if k = k' then some v else find k l := by
  simp [find]

theorem find_place (k x : κ) (v : ν) (l : List (κ × ν)) :
    find x (place k v l) = if x = k then some v else find x l := by
  induction l with
  | nil => simp [place, find_cons, find]
  | cons e rest ih =>
    obtain ⟨k', v'⟩ := e
    simp only [place]
    cases hc : compare k k' with
    | lt => simp [find_cons]
    | eq =>
      have hk : k = k' := Std.LawfulEqCmp.compare_eq_iff_eq.1 hc
      subst hk
      by_cases hx : x = k <;> simp [find_cons, hx]
    | gt =>
      have hne : k ≠ k' := by
        rintro rfl
        simp at hc
      by_cases hx : x = k
      · subst hx
        simp [find_cons, ih, hne]
      · simp [find_cons, ih, hx]

@[simp] theorem get?_insert [Std.TransOrd κ] (m : SortedMap κ ν) (k x : κ) (v : ν) :
    (m.insert k v).get? x = if x = k then some v else m.get? x :=
  find_place k x v m.entries

theorem find_filter_ne (k x : κ) (l : List (κ × ν)) :
    find x (l.filter fun e => compare k e.1 != .eq) = if x = k then none else find x l := by
  induction l with
  | nil => simp [find]
  | cons e rest ih =>
    obtain ⟨k', v'⟩ := e
    by_cases hk : k = k'
    · subst hk
      simp only [List.filter_cons, Std.compare_self, bne_self_eq_false, Bool.false_eq_true, if_false,
        ih, find_cons]
      split <;> rfl
    · have hc : (compare k k' != .eq) = true := by simp [hk]
      simp only [List.filter_cons, hc, if_true, find_cons, ih]
      by_cases hx : x = k
      · subst hx
        simp [hk]
      · simp [hx]

@[simp] theorem get?_erase (m : SortedMap κ ν) (k x : κ) :
    (m.erase k).get? x = if x = k then none else m.get? x :=
  find_filter_ne k x m.entries

omit [Std.LawfulEqOrd κ] [DecidableEq κ] in
@[simp] theorem get?_empty (x : κ) : (∅ : SortedMap κ ν).get? x = none := rfl

/-! ## The listing through `get?` -/

theorem find_eq_none_iff {k : κ} {l : List (κ × ν)} :
    find k l = none ↔ k ∉ l.map Prod.fst := by
  induction l with
  | nil => simp [find]
  | cons e rest ih =>
    obtain ⟨k', v'⟩ := e
    by_cases hk : k = k' <;> simp [find_cons, hk, ih]

theorem mem_keys {m : SortedMap κ ν} {k : κ} : k ∈ m.keys ↔ ∃ v, m.get? k = some v := by
  rw [← Option.isSome_iff_exists, Option.isSome_iff_ne_none, Ne, get?, find_eq_none_iff,
    Classical.not_not]
  rfl

theorem contains_iff_mem_keys {m : SortedMap κ ν} {k : κ} : m.contains k = true ↔ k ∈ m.keys := by
  rw [contains, Option.isSome_iff_exists, mem_keys]

omit [DecidableEq κ] in
theorem nodup_keys (m : SortedMap κ ν) : m.keys.Nodup :=
  m.ascending.imp fun {a b} h hab => by
    subst hab
    simp at h

theorem find_eq_some_iff {k : κ} {v : ν} {l : List (κ × ν)} (h : Ascending (l.map Prod.fst)) :
    find k l = some v ↔ (k, v) ∈ l := by
  induction l with
  | nil => simp [find]
  | cons e rest ih =>
    obtain ⟨k', v'⟩ := e
    have hrest := ih (List.pairwise_cons.1 h).2
    by_cases hk : k = k'
    · subst hk
      have hnot : (k, v) ∉ rest := fun hmem => by
        simpa using (List.pairwise_cons.1 h).1 k (List.mem_map_of_mem hmem)
      simp [find_cons, hnot, eq_comm]
    · simp [find_cons, hk, hrest]

theorem mem_entries {m : SortedMap κ ν} {k : κ} {v : ν} :
    (k, v) ∈ m.entries ↔ m.get? k = some v :=
  (find_eq_some_iff m.ascending).symm

theorem mem_values {m : SortedMap κ ν} {v : ν} : v ∈ m.values ↔ ∃ k, m.get? k = some v := by
  simp [values, ← mem_entries]

theorem mem_keys_filter {m : SortedMap κ ν} {p : κ → ν → Bool} {k : κ} :
    k ∈ (m.filter p).keys ↔ ∃ v, m.get? k = some v ∧ p k v := by
  simp [keys, filter, ← mem_entries]

theorem get?_foldl_insert [Std.TransOrd κ] (l : List (κ × ν)) (m : SortedMap κ ν) (k : κ) :
    (l.foldl (fun m e => m.insert e.1 e.2) m).get? k = (l.reverse.lookup k).or (m.get? k) := by
  induction l generalizing m with
  | nil => rfl
  | cons e rest ih =>
    obtain ⟨k', v⟩ := e
    rw [List.foldl_cons, ih, get?_insert, List.reverse_cons, List.lookup_append, Option.or_assoc]
    by_cases h : k = k'
    · simp [h]
    · simp [List.lookup_cons, beq_false_of_ne h, h]

/-- The last entry of a key counts. -/
theorem get?_ofList [Std.TransOrd κ] (l : List (κ × ν)) (k : κ) :
    (ofList l).get? k = l.reverse.lookup k := by
  rw [ofList, get?_foldl_insert, get?_empty, Option.or_none]

theorem mem_keys_ofList [Std.TransOrd κ] {l : List (κ × ν)} {k : κ} :
    k ∈ (ofList l).keys ↔ k ∈ l.map Prod.fst := by
  rw [mem_keys, ← Option.isSome_iff_exists, get?_ofList]
  simp

/-! ## One representation per map -/

theorem find_head_ascending {k k' : κ} {v : ν} {l : List (κ × ν)}
    (h : Ascending (((k', v) :: l).map Prod.fst)) (hk : (find k ((k', v) :: l)).isSome) :
    k = k' ∨ compare k' k = .lt := by
  by_cases hk' : k = k'
  · exact Or.inl hk'
  · refine Or.inr ((List.pairwise_cons.1 h).1 k ?_)
    have : k ∈ ((k', v) :: l).map Prod.fst := by
      apply Decidable.byContradiction
      intro hn
      rw [find_eq_none_iff.2 hn] at hk
      exact absurd hk (by simp)
    simpa [hk'] using this

theorem find_tail_self {k : κ} {v : ν} {l : List (κ × ν)}
    (h : Ascending (((k, v) :: l).map Prod.fst)) : find k l = none := by
  refine find_eq_none_iff.2 fun hk => ?_
  have := (List.pairwise_cons.1 h).1 k hk
  simp at this

theorem eq_of_find [Std.TransOrd κ] {l m : List (κ × ν)} (hl : Ascending (l.map Prod.fst))
    (hm : Ascending (m.map Prod.fst)) (h : ∀ k, find k l = find k m) : l = m := by
  induction l generalizing m with
  | nil =>
    cases m with
    | nil => rfl
    | cons e _ =>
      have := h e.1
      simp [find] at this
  | cons e l ih =>
    obtain ⟨k, v⟩ := e
    cases m with
    | nil =>
      have := h k
      simp [find] at this
    | cons e' m =>
      obtain ⟨k', v'⟩ := e'
      have hk : k = k' := by
        have h1 := find_head_ascending hm (k := k) (by rw [← h k]; simp [find])
        have h2 := find_head_ascending hl (k := k') (by rw [h k']; simp [find])
        rcases h1 with h1 | h1
        · exact h1
        · rcases h2 with h2 | h2
          · exact h2.symm
          · have := Std.TransCmp.lt_trans h1 h2
            simp at this
      subst hk
      have hv : v = v' := by simpa [find] using h k
      subst hv
      congr 1
      refine ih (List.pairwise_cons.1 hl).2 (List.pairwise_cons.1 hm).2 fun x => ?_
      by_cases hx : x = k
      · subst hx
        rw [find_tail_self hl, find_tail_self hm]
      · simpa [find_cons, hx] using h x

theorem ext_get? [Std.TransOrd κ] {m n : SortedMap κ ν} (h : ∀ k, m.get? k = n.get? k) : m = n :=
  ext_entries (eq_of_find m.ascending n.ascending h)

end Lawful

end SortedMap

end MeshPolicy
