import Mathlib.Logic.Relation
import MeshPolicy.Proofs.Json.View

/-! # Shapes of JSON values

A shape says which values a reader takes: what stands in a record, and whether it may be missing.

* `Shape`, `Shape.Accepts`: texts, names out of some, lists and records, and the values of each shape.
* `Shape.Expects`: which shape is expected at which part of a value. From it `Shape.Plain`, a value
  without other spellings, and `Shape.Clear`, a value that lists no declared member twice.
* `Edit`: a change of members that nobody reads, or of the order of members, at any depth.
  `Edit.keeps`: what it leaves of a record's fields.
* `Reads`: a reader takes the values of a shape and nothing else, and an edit makes no difference to it.
  `Reads.text`, `Reads.list`, `Reads.record`: the readers of texts, lists and records.
* `ReadsField`, `ReadsFields`: readers of one field, and of one field after the other.
* `Recognizes`: the same of any number of edits, and of values whose objects repeat no name.
-/

namespace MeshPolicy.Json
set_option autoImplicit false

/-- A required field is there and not `null`; an optional one may be missing or `null`; one with a
default may be missing. -/
inductive Need where
  | required
  | optional
  | defaulted

inductive Shape where
  | text
  | choice (names : List String)
  | list (item : Shape)
  | record (fields : List (String × Need × Shape))

/-- What may stand in a field, or be missing from it, if `accepts` holds of its values. -/
def Need.Admits (accepts : Json → Prop) : Need → Option Json → Prop
  | required, found => ∃ value, found = some value ∧ value ≠ null ∧ accepts value
  | optional, found => ∀ value, found = some value → value = null ∨ accepts value
  | defaulted, found => ∀ value, found = some value → value ≠ null ∧ accepts value

namespace Shape

mutual

def Accepts : Shape → Json → Prop
  | text, value => ∃ content, value = string content
  | choice names, value => ∃ name ∈ names, value = string name
  | list item, value => ∃ items, value = array items ∧ ∀ x ∈ items, item.Accepts x
  | record fields, value => ∃ members, value = object members ∧ AcceptsFields fields members

def AcceptsFields : List (String × Need × Shape) → Members → Prop
  | [], _ => True
  | (name, need, shape) :: rest, members =>
    need.Admits shape.Accepts (members.lookup name) ∧ AcceptsFields rest members

end

/-- The shape that is expected at a part of a value. -/
inductive Expects : Shape → Json → Shape → Json → Prop where
  | whole (shape : Shape) (value : Json) : Expects shape value shape value
  | item {item shape : Shape} {items : List Json} {value part : Json} (hmem : value ∈ items)
      (h : Expects item value shape part) : Expects (list item) (array items) shape part
  | member {fields : List (String × Need × Shape)} {own shape : Shape} {name : String} {need : Need}
      {members : Members} {value part : Json} (hmem : (name, need, own) ∈ fields)
      (hlookup : members.lookup name = some value) (h : Expects own value shape part) :
    Expects (record fields) (object members) shape part

/-- No array stands where a record is expected, and no object where one of some names is. -/
def Plain (shape : Shape) (value : Json) : Prop :=
  (∀ fields items, ¬ Expects shape value (record fields) (array items)) ∧
    ∀ names members, ¬ Expects shape value (choice names) (object members)

/-- No record lists a declared member twice. -/
def Clear (shape : Shape) (value : Json) : Prop :=
  ∀ fields members, Expects shape value (record fields) (object members) →
    ∀ field ∈ fields, onceAtMost members field.1 = true

theorem not_accepts_null (shape : Shape) : ¬ shape.Accepts null := by
  cases shape <;> simp [Accepts]

end Shape

/-! ## Edits -/

/-- The names that are declared where such a shape is expected, or none is. -/
def declared : Option Shape → List String
  | some (.record fields) => fields.map Prod.fst
  | _ => []

def memberShape (name : String) : Option Shape → Option Shape
  | some (.record fields) => (fields.lookup name).map Prod.snd
  | _ => none

def itemShape : Option Shape → Option Shape
  | some (.list item) => some item
  | _ => none

/-- One change of a value, where such a shape is expected or none is: of the order of members, of
members that are not declared, or inside a member or an item. -/
inductive Edit : Option Shape → Json → Json → Prop where
  | reorder {shape : Option Shape} {members members' : Members} (h : members.Perm members') :
    Edit shape (object members) (object members')
  -- An object may be another spelling of a name, as an array may be one of a record: all of it is read.
  | undeclared {shape : Option Shape} {members members' : Members}
      (hshape : ∀ names, shape ≠ some (.choice names))
      (h : (members.filter fun m => m.1 ∈ declared shape) =
        members'.filter fun m => m.1 ∈ declared shape) :
    Edit shape (object members) (object members')
  | member {shape : Option Shape} {name : String} {value value' : Json} (before after : Members)
      (h : Edit (memberShape name shape) value value') :
    Edit shape (object (before ++ (name, value) :: after))
      (object (before ++ (name, value') :: after))
  | item {shape : Option Shape} {value value' : Json}
      (hshape : ∀ fields, shape ≠ some (.record fields)) (before after : List Json)
      (h : Edit (itemShape shape) value value') :
    Edit shape (array (before ++ value :: after)) (array (before ++ value' :: after))

/-- What is found in a field is edited, if anything. -/
def Kept (shape : Shape) (found found' : Option Json) : Prop :=
  found = found' ∨ ∃ value value', found = some value ∧ found' = some value' ∧
    Edit (some shape) value value'

theorem Edit.ne_null {shape : Option Shape} {value value' : Json} (h : Edit shape value value') :
    value ≠ null ∧ value' ≠ null := by
  cases h <;> simp

section Lookup

variable {members members' : Members} {name : String}

theorem lookup_eq_head? (members : Members) (name : String) :
    members.lookup name = ((members.filter fun m => m.1 == name).head?).map Prod.snd := by
  induction members with
  | nil => rfl
  | cons m rest ih =>
    obtain ⟨own, value⟩ := m
    rw [lookup_cons_eq, List.filter_cons, ih]
    by_cases hname : name = own
    · simp [hname]
    · simp [hname, beq_false_of_ne (Ne.symm hname)]

theorem lookup_replace (before after : Members) (name own : String) (value value' : Json) :
    (before ++ (own, value) :: after).lookup name = (before ++ (own, value') :: after).lookup name ∨
      name = own ∧ (before ++ (own, value) :: after).lookup name = some value ∧
        (before ++ (own, value') :: after).lookup name = some value' := by
  rw [List.lookup_append, List.lookup_append, lookup_cons_eq, lookup_cons_eq]
  by_cases hname : name = own
  · cases before.lookup name with
    | none => exact .inr ⟨hname, by simp [hname], by simp [hname]⟩
    | some => exact .inl rfl
  · exact .inl (by simp [hname])

theorem onceAtMost_replace (before after : Members) (own : String) (value value' : Json) :
    onceAtMost (before ++ (own, value) :: after) name =
      onceAtMost (before ++ (own, value') :: after) name := by
  simp only [onceAtMost, List.filter_append, List.filter_cons, List.length_append]
  split <;> rfl

theorem onceAtMost_perm (h : members.Perm members') :
    onceAtMost members name = onceAtMost members' name := by
  unfold onceAtMost
  rw [(h.filter _).length_eq]

/-- In which order members are listed does not matter for a name that is not listed twice. -/
theorem lookup_perm (h : members.Perm members') (honce : onceAtMost members name = true) :
    members.lookup name = members'.lookup name := by
  have hfound := h.filter fun m => m.1 == name
  unfold onceAtMost at honce
  rw [lookup_eq_head?, lookup_eq_head?]
  generalize (members.filter fun m => m.1 == name) = found at hfound honce
  generalize (members'.filter fun m => m.1 == name) = found' at hfound
  match found with
  | [] => rw [hfound.nil_eq]
  | [m] => rw [List.singleton_perm.1 hfound]
  | _ :: _ :: _ => simp at honce

/-- The members of a name among those that are declared. -/
theorem filter_declared {names : List String} (hname : name ∈ names) (members : Members) :
    ((members.filter fun m => m.1 ∈ names).filter fun m => m.1 == name) =
      members.filter fun m => m.1 == name := by
  rw [List.filter_filter]
  refine List.filter_congr fun m _ => ?_
  by_cases hm : m.1 = name <;> simp [hm, hname]

end Lookup

variable {fields : List (String × Need × Shape)}

/-- An edit of a record leaves its fields as they are, or edits what is found in them. -/
theorem Edit.keeps {members members' : Members}
    (h : Edit (some (.record fields)) (object members) (object members'))
    (hnames : (fields.map Prod.fst).Nodup) {name : String} {need : Need} {shape : Shape}
    (hfield : (name, need, shape) ∈ fields) :
    onceAtMost members name = onceAtMost members' name ∧
      (onceAtMost members name = true → Kept shape (members.lookup name) (members'.lookup name)) := by
  cases h with
  | reorder h => exact ⟨onceAtMost_perm h, fun honce => .inl (lookup_perm h honce)⟩
  | undeclared _ h =>
    have hname : name ∈ fields.map Prod.fst := List.mem_map.2 ⟨_, hfield, rfl⟩
    have hfound : (members.filter fun m => m.1 == name) = members'.filter fun m => m.1 == name := by
      rw [← filter_declared hname members, ← filter_declared hname members']
      exact congrArg (List.filter fun m => m.1 == name) h
    refine ⟨?_, fun _ => .inl ?_⟩
    · rw [onceAtMost, onceAtMost, hfound]
    · rw [lookup_eq_head?, lookup_eq_head?, hfound]
  | @member _ own value value' before after h =>
    refine ⟨onceAtMost_replace .., fun _ => ?_⟩
    rcases lookup_replace before after name own value value' with hsame | ⟨rfl, hv, hv'⟩
    · exact .inl hsame
    · have hshape : memberShape name (some (.record fields)) = some shape := by
        rw [memberShape, (lookup_eq_some_of_nodup hnames).2 hfield]
        rfl
      exact .inr ⟨value, value', hv, hv', hshape ▸ h⟩

/-! ## Readers -/

variable {α β : Type} {read : Json → Option α} {shape : Shape}

/-- A reader takes the values of a shape, and nothing else, and what it reads stays the same under
edits. -/
structure Reads (shape : Shape) (read : Json → Option α) : Prop where
  isSome_iff : ∀ value, shape.Plain value →
    ((read value).isSome = true ↔ shape.Accepts value ∧ shape.Clear value)
  edit : ∀ value value', Edit (some shape) value value' → read value = read value'

namespace Shape

theorem clear_of_not_record {value : Json}
    (h : ∀ fields members, ¬ Expects shape value (record fields) (object members)) :
    shape.Clear value := fun fields members hexpects => absurd hexpects (h fields members)

theorem Plain.item {item : Shape} {items : List Json} (h : (list item).Plain (array items))
    {value : Json} (hmem : value ∈ items) : item.Plain value :=
  ⟨fun fields parts hexpects => h.1 fields parts (.item hmem hexpects),
    fun names members hexpects => h.2 names members (.item hmem hexpects)⟩

theorem Plain.member {members : Members} (h : (record fields).Plain (object members)) {name : String}
    {need : Need} {own : Shape} (hmem : (name, need, own) ∈ fields) {value : Json}
    (hlookup : members.lookup name = some value) : own.Plain value :=
  ⟨fun fields items hexpects => h.1 fields items (.member hmem hlookup hexpects),
    fun names members hexpects => h.2 names members (.member hmem hlookup hexpects)⟩

theorem clear_list {item : Shape} {items : List Json} :
    (list item).Clear (array items) ↔ ∀ value ∈ items, item.Clear value := by
  constructor
  · intro h value hmem fields members hexpects
    exact h fields members (.item hmem hexpects)
  · intro h fields members hexpects
    cases hexpects with
    | item hmem hexpects => exact h _ hmem fields members hexpects

theorem clear_record {members : Members} :
    (record fields).Clear (object members) ↔
      (∀ field ∈ fields, onceAtMost members field.1 = true) ∧
        ∀ name need own, (name, need, own) ∈ fields → ∀ value, members.lookup name = some value →
          own.Clear value := by
  constructor
  · intro h
    refine ⟨h fields members (.whole _ _), fun name need own hmem value hlookup => ?_⟩
    intro inner parts hexpects
    exact h inner parts (.member hmem hlookup hexpects)
  · rintro ⟨honce, hparts⟩ inner parts hexpects
    cases hexpects with
    | whole => exact honce
    | member hmem hlookup hexpects => exact hparts _ _ _ hmem _ hlookup inner parts hexpects

end Shape

theorem Reads.text : Reads .text text? where
  isSome_iff value _ := by
    have hclear : Shape.text.Clear value := Shape.clear_of_not_record fun _ _ hexpects => by
      cases hexpects
    cases value <;> simp [text?, Shape.Accepts, hclear]
  edit _ _ h := by cases h <;> rfl

theorem isSome_mapM {items : List Json} :
    (items.mapM read).isSome = true ↔ ∀ item ∈ items, (read item).isSome = true := by
  induction items with
  | nil => simp
  | cons item rest ih =>
    rw [List.forall_mem_cons, ← ih, List.mapM_cons]
    cases read item with
    | none => simp
    | some => cases rest.mapM read <;> simp

theorem Reads.list {item : Shape} (h : Reads item read) : Reads (.list item) (list? read) where
  isSome_iff value hplain := by
    cases value with
    | array items =>
      rw [list?, isSome_mapM, Shape.clear_list]
      simp only [Shape.Accepts, Json.array.injEq, exists_eq_left', ← forall₂_and]
      exact forall₂_congr fun x hx => h.isSome_iff x (hplain.item hx)
    | _ => simp [list?, Shape.Accepts]
  edit value value' hedit := by
    cases hedit with
    | reorder => rfl
    | undeclared => rfl
    | member => rfl
    | item _ before after hedit =>
      simp only [list?, List.mapM_append, List.mapM_cons, h.edit _ _ hedit]

/-! ## Fields of records -/

/-- A reader of one field of a record. -/
structure ReadsField (name : String) (need : Need) (shape : Shape) (read : Members → Option α) :
    Prop where
  isSome_iff : ∀ members, (∀ value, members.lookup name = some value → shape.Plain value) →
    ((read members).isSome = true ↔ need.Admits shape.Accepts (members.lookup name) ∧
      ∀ value, members.lookup name = some value → shape.Clear value)
  edit : ∀ members members', Kept shape (members.lookup name) (members'.lookup name) →
    read members = read members'

section

variable (h : Reads shape read) {name : String}

include h

/-- What stands in a field is read if it is neither `null` nor unreadable. -/
theorem Reads.isSome_iff_of_plain {value : Json} (hplain : shape.Plain value) :
    (read value).isSome = true ↔ (value ≠ null ∧ shape.Accepts value) ∧ shape.Clear value := by
  rw [h.isSome_iff value hplain, and_assoc]
  refine ⟨fun hread => ⟨?_, hread⟩, And.right⟩
  rintro rfl
  exact shape.not_accepts_null hread.1

theorem ReadsField.required : ReadsField name .required shape (field read name) where
  isSome_iff members hplain := by
    unfold field
    cases hfound : members.lookup name with
    | none => simp [Need.Admits]
    | some value => simp [Need.Admits, h.isSome_iff_of_plain (hplain value hfound)]
  edit members members' hkept := by
    unfold field
    rcases hkept with hsame | ⟨value, value', hvalue, hvalue', hedit⟩
    · rw [hsame]
    · rw [hvalue, hvalue', Option.bind_some, Option.bind_some, h.edit _ _ hedit]

theorem ReadsField.defaulted (default : α) :
    ReadsField name .defaulted shape (fieldOr default read name) where
  isSome_iff members hplain := by
    unfold fieldOr
    cases hfound : members.lookup name with
    | none => simp [Need.Admits]
    | some value => simp [Need.Admits, h.isSome_iff_of_plain (hplain value hfound)]
  edit members members' hkept := by
    unfold fieldOr
    rcases hkept with hsame | ⟨value, value', hvalue, hvalue', hedit⟩
    · rw [hsame]
    · rw [hvalue, hvalue']
      exact h.edit _ _ hedit

omit h in
theorem optionalField_of_ne_null {members : Members} {value : Json}
    (hvalue : members.lookup name = some value) (hnull : value ≠ null) :
    optionalField read name members = (read value).map some := by
  unfold optionalField
  rw [hvalue]
  cases value with
  | null => exact absurd rfl hnull
  | _ => rfl

theorem ReadsField.optional : ReadsField name .optional shape (optionalField read name) where
  isSome_iff members hplain := by
    cases hfound : members.lookup name with
    | none => simp [optionalField, hfound, Need.Admits]
    | some value =>
      by_cases hnull : value = null
      · have hclear : shape.Clear null := Shape.clear_of_not_record fun _ _ hexpects => by
          cases hexpects
        simp [optionalField, hfound, hnull, Need.Admits, hclear]
      · rw [optionalField_of_ne_null hfound hnull, Option.isSome_map,
          h.isSome_iff value (hplain value hfound)]
        simp [Need.Admits, hnull]
  edit members members' hkept := by
    rcases hkept with hsame | ⟨value, value', hvalue, hvalue', hedit⟩
    · unfold optionalField
      rw [hsame]
    · rw [optionalField_of_ne_null hvalue hedit.ne_null.1,
        optionalField_of_ne_null hvalue' hedit.ne_null.2, h.edit _ _ hedit]

end

/-- A reader of fields, one after the other. -/
structure ReadsFields (fields : List (String × Need × Shape)) (read : Members → Option α) : Prop where
  isSome_iff : ∀ members,
    (∀ name need shape, (name, need, shape) ∈ fields → ∀ value, members.lookup name = some value →
      shape.Plain value) →
    ((read members).isSome = true ↔ Shape.AcceptsFields fields members ∧
      ∀ name need shape, (name, need, shape) ∈ fields → ∀ value,
        members.lookup name = some value → shape.Clear value)
  edit : ∀ members members',
    (∀ name need shape, (name, need, shape) ∈ fields →
      Kept shape (members.lookup name) (members'.lookup name)) → read members = read members'

namespace ReadsFields

theorem nil (x : α) : ReadsFields [] fun _ => some x where
  isSome_iff _ _ := by simp [Shape.AcceptsFields]
  edit _ _ _ := rfl

theorem cons {name : String} {need : Need} {read : Members → Option α}
    {build : α → Members → Option β} (h : ReadsField name need shape read)
    (hrest : ∀ x, ReadsFields fields (build x)) :
    ReadsFields ((name, need, shape) :: fields) fun members =>
      read members >>= fun x => build x members where
  isSome_iff members hplain := by
    have hfirst := h.isSome_iff members (hplain name need shape List.mem_cons_self)
    have hothers x := (hrest x).isSome_iff members fun own need shape hmem =>
      hplain own need shape (List.mem_cons_of_mem _ hmem)
    have hbind : (read members >>= fun x => build x members).isSome = true ↔
        (read members).isSome = true ∧ Shape.AcceptsFields fields members ∧
          ∀ name need shape, (name, need, shape) ∈ fields → ∀ value,
            members.lookup name = some value → shape.Clear value := by
      cases read members with
      | none => simp
      | some x => exact (hothers x).trans (by simp)
    rw [hbind, hfirst]
    simp only [Shape.AcceptsFields, List.mem_cons, Prod.mk.injEq]
    constructor
    · rintro ⟨⟨hadmits, hclear⟩, haccepts, hclears⟩
      refine ⟨⟨hadmits, haccepts⟩, ?_⟩
      rintro own need' shape' (⟨rfl, rfl, rfl⟩ | hmem)
      · exact hclear
      · exact hclears own need' shape' hmem
    · rintro ⟨⟨hadmits, haccepts⟩, hclears⟩
      exact ⟨⟨hadmits, hclears name need shape (.inl ⟨rfl, rfl, rfl⟩)⟩, haccepts,
        fun own need' shape' hmem => hclears own need' shape' (.inr hmem)⟩
  edit members members' hkept := by
    have hfirst := h.edit members members' (hkept name need shape List.mem_cons_self)
    rw [hfirst]
    refine Option.bind_congr fun x _ => ?_
    exact (hrest x).edit members members' fun own need shape hmem =>
      hkept own need shape (List.mem_cons_of_mem _ hmem)

end ReadsFields

theorem Reads.record {build : Members → Option α} (hnames : (fields.map Prod.fst).Nodup)
    (h : ReadsFields fields build) :
    Reads (.record fields) fun value => record? (fields.map Prod.fst) value >>= build where
  isSome_iff value hplain := by
    cases value with
    | object members =>
      have hbuild := h.isSome_iff members fun name need shape hmem value hlookup =>
        hplain.member hmem hlookup
      have honce : (fields.map Prod.fst).all (onceAtMost members) = true ↔
          ∀ field ∈ fields, onceAtMost members field.1 = true := by simp
      rw [Shape.clear_record, ← honce, record?]
      by_cases hall : (fields.map Prod.fst).all (onceAtMost members) = true
      · rw [if_pos hall, Option.bind_eq_bind, Option.bind_some, hbuild]
        simp [Shape.Accepts, hall]
      · rw [if_neg hall]
        simp [hall]
    | array items => exact absurd (.whole _ _) (hplain.1 fields items)
    | _ => simp [record?, Shape.Accepts]
  edit value value' hedit := by
    have hobjects : ∃ members members', value = object members ∧ value' = object members' := by
      cases hedit with
      | reorder => exact ⟨_, _, rfl, rfl⟩
      | undeclared => exact ⟨_, _, rfl, rfl⟩
      | member => exact ⟨_, _, rfl, rfl⟩
      | item hshape => exact absurd rfl (hshape fields)
    obtain ⟨members, members', rfl, rfl⟩ := hobjects
    have hkept (name : String) (need : Need) (shape : Shape) (hmem : (name, need, shape) ∈ fields) :=
      hedit.keeps hnames hmem
    have honce : (fields.map Prod.fst).all (onceAtMost members) =
        (fields.map Prod.fst).all (onceAtMost members') := by
      rw [Bool.eq_iff_iff, List.all_eq_true, List.all_eq_true]
      refine forall₂_congr fun name hname => ?_
      obtain ⟨⟨_, need, shape⟩, hmem, rfl⟩ := List.mem_map.1 hname
      rw [(hkept _ need shape hmem).1]
    simp only [record?, ← honce]
    split
    next hall =>
      refine h.edit members members' fun name need shape hmem => (hkept name need shape hmem).2 ?_
      exact List.all_eq_true.1 hall name (List.mem_map.2 ⟨_, hmem, rfl⟩)
    next => rfl

/-! ## What a reader recognizes -/

/-- A part of a value, at any depth. -/
inductive Part : Json → Json → Prop where
  | whole (value : Json) : Part value value
  | item {items : List Json} {value part : Json} (hmem : value ∈ items) (h : Part value part) :
    Part (array items) part
  | member {members : Members} {m : String × Json} {part : Json} (hmem : m ∈ members)
      (h : Part m.2 part) : Part (object members) part

/-- No object in the value, at any depth, lists two members of one name. -/
def Distinct (value : Json) : Prop :=
  ∀ members, Part value (object members) → (members.map Prod.fst).Nodup

theorem Shape.Expects.part {own : Shape} {value part : Json} (h : shape.Expects value own part) :
    Part value part := by
  induction h with
  | whole => exact .whole _
  | item hmem _ ih => exact .item hmem ih
  | @member _ _ _ name _ members value _ _ hlookup _ ih =>
    obtain ⟨before, after, rfl, _⟩ := List.lookup_eq_some_iff.1 hlookup
    exact .member (m := (name, value)) (by simp) ih

theorem onceAtMost_of_nodup {members : Members} (hn : (members.map Prod.fst).Nodup) (name : String) :
    onceAtMost members name = true := by
  have hfound := filter_name_of_nodup hn name
  have hlength := congrArg List.length hfound
  rw [List.length_map] at hlength
  rw [onceAtMost, hlength]
  cases members.lookup name <;> rfl

theorem Distinct.clear {value : Json} (h : value.Distinct) (shape : Shape) : shape.Clear value :=
  fun _ members hexpects field _ => onceAtMost_of_nodup (h members hexpects.part) field.1

/-- A reader takes the values of a shape and nothing else, records that repeat a declared member
apart, and reads a value the same way after any edits. -/
structure Recognizes (shape : Shape) (read : Json → Option α) : Prop where
  distinct : ∀ value, value.Distinct → shape.Plain value →
    ((read value).isSome = true ↔ shape.Accepts value)
  plain : ∀ value, shape.Plain value →
    ((read value).isSome = true ↔ shape.Accepts value ∧ shape.Clear value)
  edits : ∀ value value', Relation.ReflTransGen (Edit (some shape)) value value' →
    read value = read value'

theorem Reads.recognizes (h : Reads shape read) : Recognizes shape read where
  distinct value hdistinct hplain := by
    rw [h.isSome_iff value hplain]
    exact and_iff_left (hdistinct.clear shape)
  plain := h.isSome_iff
  edits value value' hedits := by
    induction hedits with
    | refl => rfl
    | tail _ hedit ih => exact ih.trans (h.edit _ _ hedit)

end MeshPolicy.Json
