import MeshPolicy.Resource.Enforcement
import MeshPolicy.Resource.RoleBinding
import MeshPolicy.Resource.ServiceRole
import MeshPolicy.Resource.SignedDomain

/-! # How deeply resources are nested

A reader may refuse values that are nested too deeply. No resource comes near to that, however long
its lists are.

* `Within`: members whose values are nested no deeper than so many levels.
* `depth_array_le`, `depth_object_le`, and `Within` by its parts: the depth of a written value.
* `Object.depth_encode`: objects are one level deeper than their specifications.
-/

namespace MeshPolicy
set_option autoImplicit false

namespace Json

/-! ## Part by part -/

@[simp] theorem depth_string (text : String) : (string text).depth = 0 := rfl

def Within (n : Nat) (members : Members) : Prop := ∀ m ∈ members, m.2.depth ≤ n

@[simp] theorem depth_array_le {items : List Json} {n : Nat} :
    (array items).depth ≤ n + 1 ↔ ∀ item ∈ items, item.depth ≤ n := by
  rw [depth, Nat.add_le_add_iff_right]
  induction items with
  | nil => simp [depthOfItems]
  | cons item rest ih => rw [depthOfItems, Nat.max_le, ih, List.forall_mem_cons]

@[simp] theorem depth_object_le {members : Members} {n : Nat} :
    (object members).depth ≤ n + 1 ↔ Within n members := by
  rw [depth, Nat.add_le_add_iff_right]
  induction members with
  | nil => simp [depthOfMembers, Within]
  | cons m rest ih => rw [depthOfMembers, Nat.max_le, ih, Within, Within, List.forall_mem_cons]

namespace Within

variable {α : Type} {n : Nat} {name : String} {write : α → Json}

@[simp] theorem nil : Within n [] := List.forall_mem_nil _

@[simp] theorem cons_iff {value : Json} {rest : Members} :
    Within n ((name, value) :: rest) ↔ value.depth ≤ n ∧ Within n rest :=
  List.forall_mem_cons

@[simp] theorem append_iff {members members' : Members} :
    Within n (members ++ members') ↔ Within n members ∧ Within n members' :=
  List.forall_mem_append

@[simp] theorem whenSome_iff {field : Option α} :
    Within n (whenSome name write field) ↔ ∀ x ∈ field, (write x).depth ≤ n := by
  cases field <;> simp [whenSome]

@[simp] theorem whenNonempty_iff {values : List α} :
    Within n (whenNonempty name write values) ↔
      (values ≠ [] → (array (values.map write)).depth ≤ n) := by
  cases values <;> simp [whenNonempty]

end Within

end Json

open Json

/-! ## Resources -/

theorem ServiceRole.depth_encode (spec : ServiceRole) : (encode spec).depth ≤ 4 := by
  simp [encode, texts]

theorem RoleBinding.depth_encode (spec : RoleBinding) : (encode spec).depth ≤ 3 := by
  simp [encode]

theorem Enforcement.depth_encode (spec : Enforcement) : (encode spec).depth ≤ 3 := by
  simp [encode, texts]

theorem SignedDomain.depth_encode (spec : SignedDomain) : (encode spec).depth ≤ 8 := by
  simp [encode]

theorem TextMap.depth_encode (map : TextMap) : (TextMap.encode map).depth ≤ 1 := by
  rw [TextMap.encode, depth_object_le]
  intro m hm
  obtain ⟨e, _, rfl⟩ := List.mem_map.1 hm
  exact Nat.le_refl 0

theorem Metadata.depth_encode (metadata : Metadata) : (encode metadata).depth ≤ 2 := by
  simp [encode, TextMap.depth_encode]

theorem Object.depth_encode {σ : Type} [Resource σ] {n : Nat} (hn : 2 ≤ n) (o : Object σ)
    (hspec : (encode o.spec).depth ≤ n) : (encode o).depth ≤ n + 1 := by
  have hmetadata := Nat.le_trans o.metadata.depth_encode hn
  refine depth_object_le.2 ?_
  simp [hmetadata, hspec]

end MeshPolicy
