/-! # Lists in non-descending order

* `insertInOrder`: puts an element in front of the first one that is not smaller.
* `sortInOrder`: sorts by repeated insertion and keeps repetitions.
* `sortInOrder_perm`, `inOrder_sortInOrder`: the result has the same elements and never descends.
-/

namespace MeshPolicy
set_option autoImplicit false

variable {α : Type} [Ord α]

/-- No element comes after a greater one. -/
def InOrder (l : List α) : Prop := l.Pairwise fun a b => compare a b ≠ .gt

/-- Puts `a` in front of the first element that is not smaller. -/
def insertInOrder (a : α) : List α → List α
  | [] => [a]
  | b :: rest => if compare a b = .gt then b :: insertInOrder a rest else a :: b :: rest

def sortInOrder (l : List α) : List α := l.foldr insertInOrder []

theorem insertInOrder_perm (a : α) (l : List α) : (insertInOrder a l).Perm (a :: l) := by
  induction l with
  | nil => exact .refl _
  | cons b rest ih =>
    simp only [insertInOrder]
    split
    · exact (ih.cons b).trans (.swap a b rest)
    · exact .refl _

theorem sortInOrder_perm (l : List α) : (sortInOrder l).Perm l := by
  induction l with
  | nil => exact .refl _
  | cons a rest ih => exact (insertInOrder_perm a _).trans (ih.cons a)

theorem inOrder_insertInOrder [Std.TransOrd α] (a : α) {l : List α} (h : InOrder l) :
    InOrder (insertInOrder a l) := by
  induction l with
  | nil => simp [insertInOrder, InOrder]
  | cons b rest ih =>
    have hhead := (List.pairwise_cons.1 h).1
    have hrest := (List.pairwise_cons.1 h).2
    simp only [insertInOrder]
    split
    next hgt =>
      refine List.pairwise_cons.2 ⟨fun x hx => ?_, ih hrest⟩
      rcases List.mem_cons.1 ((insertInOrder_perm a rest).mem_iff.1 hx) with rfl | hx
      · rw [Std.OrientedCmp.gt_iff_lt.1 hgt]
        simp
      · exact hhead x hx
    next hle =>
      refine List.pairwise_cons.2 ⟨fun x hx => ?_, h⟩
      rcases List.mem_cons.1 hx with rfl | hx
      · exact hle
      · have hab : (compare a b).isLE := by
          cases hc : compare a b <;> simp_all
        have hbx : (compare b x).isLE := by
          have := hhead x hx
          cases hc : compare b x <;> simp_all
        have := Std.TransCmp.isLE_trans hab hbx
        cases hc : compare a x <;> simp_all

theorem inOrder_sortInOrder [Std.TransOrd α] (l : List α) : InOrder (sortInOrder l) := by
  induction l with
  | nil => exact List.Pairwise.nil
  | cons a rest ih => exact inOrder_insertInOrder a ih

end MeshPolicy
