/-! # Identities of objects

An object is identified by its namespace and its name; the objects of the whole cluster have the
empty namespace. Identities are ordered by namespace, then by name.
-/

namespace MeshPolicy
set_option autoImplicit false

structure ObjectId where
  ns : String
  name : String
  deriving DecidableEq, Repr, Inhabited

namespace ObjectId

/-- `namespace/name`, or the name alone. -/
def text (id : ObjectId) : String :=
  if id.ns = "" then id.name else id.ns ++ "/" ++ id.name

instance : Ord ObjectId where
  compare := compareLex (compareOn ObjectId.ns) (compareOn ObjectId.name)

instance : Std.TransOrd ObjectId :=
  inferInstanceAs (Std.TransCmp (compareLex (compareOn ObjectId.ns) (compareOn ObjectId.name)))

instance : Std.LawfulEqOrd ObjectId where
  compare_self := Std.ReflCmp.compare_self
  eq_of_compare := by
    intro a b h
    have h : compareLex (compareOn ObjectId.ns) (compareOn ObjectId.name) a b = .eq := h
    simp only [compareLex, compareOn, Ordering.then_eq_eq, Std.LawfulEqCmp.compare_eq_iff_eq] at h
    cases a; cases b; simp_all

end ObjectId

end MeshPolicy
