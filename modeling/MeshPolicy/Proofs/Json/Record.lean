import MeshPolicy.Json.Record

/-! # What is written in a record

The fields of a record are seen by their names, whether the record is an object or an array.

* `written?`: what stands in a field; `null` is nothing. `content?`: an empty list is nothing either.
* `Declared`: an object that has no member but the declared ones.
* `written?_of_field`, `written?_of_fieldOr`, `written?_of_optionalField`, `content?_of_fieldOr`: what
  is read from a field is what is written in it.
-/

namespace MeshPolicy.Json
set_option autoImplicit false

def present? : Json → Option Json
  | null => none
  | value => some value

def nonempty? : Json → Option Json
  | array [] => none
  | value => some value

/-- What stands in a field of a record with the fields `names`; `null` is nothing. -/
def written? (names : List String) (name : String) (value : Json) : Option Json :=
  (record? names value).bind fun members => (members.lookup name).bind present?

/-- What stands in a field of a record; neither `null` nor an empty list is anything. -/
def content? (names : List String) (name : String) (value : Json) : Option Json :=
  (written? names name value).bind nonempty?

/-- An object with members of the given names only. -/
def Declared (names : List String) (value : Json) : Prop :=
  ∃ members, value = object members ∧ ∀ m ∈ members, m.1 ∈ names

theorem Declared.written? {names : List String} {value : Json} (h : Declared names value)
    {name : String} (hname : name ∉ names) (fields : List String) :
    written? fields name value = none := by
  obtain ⟨members, rfl, hmembers⟩ := h
  have hlookup : members.lookup name = none := by
    rw [List.lookup_eq_none_iff]
    intro m hm
    have hne : name ≠ m.1 := fun heq => hname (heq ▸ hmembers m hm)
    simpa using hne
  simp only [Json.written?, record?]
  split <;> simp [hlookup]

/-! ## Texts -/

theorem text?_eq_some {value : Json} {text : String} :
    text? value = some text ↔ value = string text := by
  cases value <;> simp [text?]

theorem mapM_text?_eq_some {items : List Json} {values : List String} :
    items.mapM text? = some values ↔ items = values.map string := by
  induction items generalizing values with
  | nil => cases values <;> simp
  | cons item rest ih =>
    simp only [List.mapM_cons, Option.bind_eq_bind, Option.bind_eq_some_iff, text?_eq_some, ih]
    cases values with
    | nil => simp
    | cons value values => simp

theorem list?_text?_eq_some {value : Json} {values : List String} :
    list? text? value = some values ↔ value = texts values := by
  cases value <;> simp [list?, texts, mapM_text?_eq_some]

/-! ## Fields -/

section Fields

variable {α : Type} {names : List String} {name : String} {value : Json} {members : Members}

theorem written?_of_record? (hrecord : record? names value = some members) :
    written? names name value = (members.lookup name).bind present? := by
  rw [written?, hrecord, Option.bind_some]

theorem written?_of_field {read : Json → Option α} {field : α}
    (hrecord : record? names value = some members) (hread : Json.field read name members = some field)
    (hnull : read null = none) :
    ∃ item, written? names name value = some item ∧ read item = some field := by
  obtain ⟨item, hlookup, hitem⟩ := Option.bind_eq_some_iff.1 hread
  refine ⟨item, ?_, hitem⟩
  rw [written?_of_record? hrecord, hlookup]
  cases item with
  | null =>
    rw [hnull] at hitem
    cases hitem
  | _ => rfl

theorem content?_of_fieldOr {values : List String} (hrecord : record? names value = some members)
    (hread : fieldOr [] (list? text?) name members = some values) :
    content? names name value = nonempty? (texts values) := by
  rw [content?, written?_of_record? hrecord]
  unfold fieldOr at hread
  cases hlookup : members.lookup name with
  | none =>
    rw [hlookup] at hread
    cases hread
    rfl
  | some item =>
    rw [hlookup] at hread
    obtain rfl := list?_text?_eq_some.1 hread
    rfl

/-- A field with a default is written if another value is read from it. -/
theorem written?_of_fieldOr {read : Json → Option α} {default field : α}
    (hrecord : record? names value = some members)
    (hread : fieldOr default read name members = some field) (hnull : read null = none)
    (hfield : field ≠ default) :
    ∃ item, written? names name value = some item ∧ read item = some field := by
  rw [written?_of_record? hrecord]
  unfold fieldOr at hread
  cases hlookup : members.lookup name with
  | none =>
    rw [hlookup] at hread
    exact absurd (Option.some.inj hread).symm hfield
  | some item =>
    rw [hlookup] at hread
    have hitem : read item = some field := hread
    refine ⟨item, ?_, hitem⟩
    cases item with
    | null =>
      rw [hnull] at hitem
      cases hitem
    | _ => rfl

/-- An optional field is missing where nothing is read, and otherwise it holds what is read. -/
theorem written?_of_optionalField {read : Json → Option α} {field : Option α}
    (hrecord : record? names value = some members)
    (hread : optionalField read name members = some field) :
    match field with
    | none => written? names name value = none
    | some x => ∃ item, written? names name value = some item ∧ read item = some x := by
  rw [written?_of_record? hrecord]
  unfold optionalField at hread
  cases hlookup : members.lookup name with
  | none =>
    rw [hlookup] at hread
    cases hread
    rfl
  | some item =>
    rw [hlookup] at hread
    cases item with
    | null =>
      cases hread
      rfl
    | _ =>
      obtain ⟨x, hx, rfl⟩ := Option.map_eq_some_iff.1 hread
      exact ⟨_, rfl, hx⟩

/-- An optional field is read as it is written. -/
theorem optionalField_of_lookup {read : Json → Option α} {write : α → Json} {field : Option α}
    (hlookup : members.lookup name = field.map write) (hread : ∀ x, read (write x) = some x)
    (hnull : read null = none) : optionalField read name members = some field := by
  unfold optionalField
  rw [hlookup]
  cases field with
  | none => rfl
  | some x =>
    have hx := hread x
    rw [Option.map_some]
    generalize write x = item at hx
    cases item with
    | null =>
      rw [hnull] at hx
      cases hx
    | _ =>
      show (read _).map some = some (some x)
      rw [hx]
      rfl

end Fields

end MeshPolicy.Json
