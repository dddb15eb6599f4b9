import MeshPolicy.Sorted.List
import MeshPolicy.Text.Decimal

/-! # Text exposition of metrics

A `Family` is a metric with its samples, one for each set of labels. Counters are exposed under
their name with `_total`.

* `Family.sampleLines`: the samples.
* `Family.allLines`: the samples with the family's help and type.
* `exposition`: the sorted lines of several families.
-/

namespace MeshPolicy.Metrics
set_option autoImplicit false

inductive FamilyType where
  | counter
  | gauge
  deriving DecidableEq, Repr

structure Sample where
  labels : List (String × String) := []
  value : Nat

structure Family where
  name : String
  help : String
  type : FamilyType
  samples : List Sample

def qualified (scope : Option String) (name : String) : String :=
  match scope with
  | none => name
  | some scope => scope ++ "_" ++ name

def labelText (labels : List (String × String)) : String :=
  if labels.isEmpty then ""
  else "\x7b" ++ String.intercalate "," (labels.map fun l => l.1 ++ "=\"" ++ l.2 ++ "\"") ++ "\x7d"

def Family.sampleLines (family : Family) : List String :=
  let ending := match family.type with
    | .counter => "_total"
    | .gauge => ""
  family.samples.map fun s =>
    family.name ++ ending ++ labelText s.labels ++ " " ++ Text.digits s.value

def Family.allLines (family : Family) : List String :=
  ("# HELP " ++ family.name ++ " " ++ family.help ++ ".") ::
    ("# TYPE " ++ family.name ++ " " ++
      (match family.type with
        | .counter => "counter"
        | .gauge => "gauge")) ::
    family.sampleLines

/-- The lines of the families, sorted: the samples only, or the whole exposition with its end mark.
-/
def exposition (whole : Bool) (families : List Family) : List String :=
  sortInOrder <|
    if whole then "# EOF" :: families.flatMap Family.allLines
    else families.flatMap Family.sampleLines

end MeshPolicy.Metrics
