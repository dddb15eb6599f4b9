import MeshPolicy.Proofs.Resource.Lossless

/-! # The fields of resources

What the fields of a readable value hold, and what a value is written as.

* `Object.reads`: where the specification of an object stands.
* `Target.reads`, `Enforcement.reads`: what the fields of a config and of its targets hold.
* `Target.declared_encode`, `Enforcement.declared_encode`: only declared fields are written.
-/

namespace MeshPolicy
set_option autoImplicit false

open Json

/-! ## Objects -/

namespace Object

variable {σ : Type} [Resource σ]

def fields : List String := ["metadata", "spec"]

theorem reads {value : Json} {o : Object σ} (h : decode value = some o)
    (hnull : (decode null : Option σ) = none) :
    ∃ item, written? fields "spec" value = some item ∧ decode item = some o.spec := by
  simp only [decode, Option.bind_eq_bind, Option.bind_eq_some_iff, Option.some.injEq] at h
  obtain ⟨members, hrecord, _, _, spec, hspec, rfl⟩ := h
  exact written?_of_field hrecord hspec hnull

end Object

/-! ## Targets -/

namespace Target

def fields : List String := ["services", "namespaces"]

/-- The lists of a readable target. -/
theorem reads {value : Json} {target : Target} (h : decode value = some target) :
    content? fields "services" value = nonempty? (texts target.services) ∧
      content? fields "namespaces" value = nonempty? (texts target.namespaces) := by
  simp only [decode, Option.bind_eq_bind, Option.bind_eq_some_iff, Option.some.injEq] at h
  obtain ⟨members, hrecord, services, hservices, namespaces, hnamespaces, rfl⟩ := h
  exact ⟨content?_of_fieldOr hrecord hservices, content?_of_fieldOr hrecord hnamespaces⟩

theorem declared_encode (target : Target) : Declared fields (encode target) := by
  obtain ⟨services, namespaces⟩ := target
  refine ⟨_, rfl, ?_⟩
  cases namespaces <;> simp [fields, whenNonempty]

end Target

/-! ## Modes -/

theorem Mode.name_of_ofName? {name : String} {mode : Mode} (h : Mode.ofName? name = some mode) :
    name = mode.name := by
  have hfound := List.find?_some h
  exact (beq_iff_eq.1 hfound).symm

/-- A mode is written as its name, and may be read in another form too. -/
theorem Mode.of_decode {value : Json} {mode : Mode} (h : decode value = some mode) :
    value = encode mode ∨ value = object [(mode.name, null)] := by
  simp only [decode] at h
  split at h
  next name => exact .inl (by rw [Mode.name_of_ofName? h]; rfl)
  next name => exact .inr (by rw [Mode.name_of_ofName? h])
  next => cases h

theorem Mode.decode_encode (mode : Mode) : decode (encode mode) = some mode :=
  readsBack_encode .id mode

/-! ## Configs -/

namespace Enforcement

def fields : List String := ["mode", "inclusion", "exclusion"]

/-- The target that is read from a field is what is written in it. -/
def HoldsTarget (value : Json) (side : String) : Option Target → Prop
  | none => written? fields side value = none
  | some target => ∃ item, written? fields side value = some item ∧ decode item = some target

structure Reads (value : Json) (spec : Enforcement) : Prop where
  mode : spec.mode ≠ .off →
    ∃ item, written? fields "mode" value = some item ∧ decode item = some spec.mode
  inclusion : HoldsTarget value "inclusion" spec.inclusion
  exclusion : HoldsTarget value "exclusion" spec.exclusion

theorem reads {value : Json} {spec : Enforcement} (h : decode value = some spec) :
    Reads value spec := by
  simp only [decode, Option.bind_eq_bind, Option.bind_eq_some_iff, Option.some.injEq] at h
  obtain ⟨members, hrecord, mode, hmode, inclusion, hinclusion, exclusion, hexclusion, rfl⟩ := h
  refine ⟨fun hoff => written?_of_fieldOr hrecord hmode rfl hoff, ?_, ?_⟩
  · have h := written?_of_optionalField hrecord hinclusion
    cases inclusion <;> exact h
  · have h := written?_of_optionalField hrecord hexclusion
    cases exclusion <;> exact h

theorem record?_encode (spec : Enforcement) :
    ∃ members, record? fields (encode spec) = some members ∧
      members.lookup "mode" = some (encode spec.mode) ∧
      members.lookup "inclusion" = spec.inclusion.map encode ∧
      members.lookup "exclusion" = spec.exclusion.map encode := by
  obtain ⟨mode, inclusion, exclusion⟩ := spec
  cases inclusion <;> cases exclusion <;> exact ⟨_, rfl, rfl, rfl, rfl⟩

theorem decode_encode (spec : Enforcement) : decode (encode spec) = some spec :=
  readsBack_encode .id spec

theorem written?_encode_mode (spec : Enforcement) :
    written? fields "mode" (encode spec) = some (encode spec.mode) := by
  obtain ⟨members, hrecord, hmode, _⟩ := record?_encode spec
  rw [written?_of_record? hrecord, hmode]
  rfl

/-- The two fields that hold a target. -/
def targetFields : List String := ["inclusion", "exclusion"]

theorem declared_encode (spec : Enforcement) : Declared fields (encode spec) := by
  obtain ⟨mode, inclusion, exclusion⟩ := spec
  refine ⟨_, rfl, ?_⟩
  cases inclusion <;> cases exclusion <;> simp [fields, whenSome]

theorem declared_encode_target (spec : Enforcement) {name : String} (hname : name ∈ targetFields)
    {item : Json} (hitem : written? fields name (encode spec) = some item) :
    Declared Target.fields item := by
  obtain ⟨members, hrecord, _, hinclusion, hexclusion⟩ := record?_encode spec
  have hlookup : ∃ field : Option Target, members.lookup name = field.map encode := by
    simp only [targetFields, List.mem_cons, List.not_mem_nil, or_false] at hname
    rcases hname with rfl | rfl
    · exact ⟨spec.inclusion, hinclusion⟩
    · exact ⟨spec.exclusion, hexclusion⟩
  obtain ⟨field, hfield⟩ := hlookup
  rw [written?_of_record? hrecord, hfield] at hitem
  cases field with
  | none => cases hitem
  | some target =>
    cases hitem
    exact target.declared_encode

end Enforcement

end MeshPolicy
