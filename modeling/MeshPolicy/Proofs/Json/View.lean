import Mathlib.Data.List.Nodup
import MeshPolicy.Proofs.Json.Record
import MeshPolicy.Sorted.Map

/-! # JSON values up to the order of members

The order in which an object lists its members says nothing. What is written by a codec is read
alike when the members of all objects in it are listed in another order.

* `Json.normal`: a value with the members of all objects listed by name. `normal_object_eq_iff`: what
  it leaves of an object.
* `View`: a way of looking at values that leaves the members of objects alone but for their order.
  `View.id`, `View.normal`: values as they are and in normal form.
* `Fields`: members that are some of the named fields, in order.
* `ReadsBack`: whatever is written is read again, in some view.
* `View.readsRecord`: a written record is read, in a view, if its fields are.
* `Seen.field`, `Seen.fieldOr`, `Seen.fieldOr_whenNonempty`, `Seen.optionalField`: how they are read.
-/

namespace MeshPolicy.Json
set_option autoImplicit false

/-! ## Normal form -/

mutual

/-- The value with the members of all objects listed by name; of several members of one name, the
last one counts. -/
def normal : Json → Json
  | array items => array (normalItems items)
  | object members => object (SortedMap.ofList (normalMembers members)).entries
  | value => value

def normalItems : List Json → List Json
  | [] => []
  | item :: rest => item.normal :: normalItems rest

def normalMembers : List (String × Json) → List (String × Json)
  | [] => []
  | (name, value) :: rest => (name, value.normal) :: normalMembers rest

end

theorem normalItems_eq (items : List Json) : normalItems items = items.map normal := by
  induction items with
  | nil => rfl
  | cons item rest ih => rw [normalItems, ih, List.map_cons]

theorem normalMembers_eq (members : Members) :
    normalMembers members = members.map fun m => (m.1, m.2.normal) := by
  induction members with
  | nil => rfl
  | cons m rest ih => rw [normalMembers, ih, List.map_cons]

/-! ## Members by name -/

section Lookup

variable {α β : Type}

theorem lookup_cons_eq (name own : String) (value : α) (rest : List (String × α)) :
    ((own, value) :: rest).lookup name = if name = own then some value else rest.lookup name := by
  rw [List.lookup_cons]
  by_cases h : name = own
  · simp [h]
  · simp [h, beq_false_of_ne h]

theorem lookup_map_snd (f : α → β) (entries : List (String × α)) (name : String) :
    (entries.map fun e => (e.1, f e.2)).lookup name = (entries.lookup name).map f := by
  induction entries with
  | nil => rfl
  | cons e rest ih =>
    obtain ⟨own, value⟩ := e
    rw [List.map_cons, lookup_cons_eq, lookup_cons_eq, ih]
    split <;> rfl

theorem lookup_eq_some_of_nodup {entries : List (String × α)} (hn : (entries.map Prod.fst).Nodup)
    {name : String} {value : α} : entries.lookup name = some value ↔ (name, value) ∈ entries := by
  induction entries with
  | nil => simp
  | cons e rest ih =>
    obtain ⟨own, item⟩ := e
    obtain ⟨hnot, hrest⟩ := List.nodup_cons.1 hn
    rw [lookup_cons_eq]
    by_cases hname : name = own
    · subst hname
      have hother : (name, value) ∉ rest := fun hmem => hnot (List.mem_map.2 ⟨_, hmem, rfl⟩)
      simp [hother, eq_comm]
    · simp [hname, ih hrest]

/-- Where names do not repeat, it does not matter from which end a list is searched. -/
theorem lookup_reverse_of_nodup {entries : List (String × α)} (hn : (entries.map Prod.fst).Nodup)
    (name : String) : entries.reverse.lookup name = entries.lookup name := by
  have hreverse : (entries.reverse.map Prod.fst).Nodup := by
    rw [List.map_reverse]
    exact List.nodup_reverse.2 hn
  refine Option.ext fun value => ?_
  rw [lookup_eq_some_of_nodup hreverse, lookup_eq_some_of_nodup hn, List.mem_reverse]

theorem filter_name_of_nodup {entries : List (String × α)} (hn : (entries.map Prod.fst).Nodup)
    (name : String) :
    (entries.filter fun e => e.1 == name).map Prod.snd = (entries.lookup name).toList := by
  induction entries with
  | nil => rfl
  | cons e rest ih =>
    obtain ⟨own, value⟩ := e
    obtain ⟨hnot, hrest⟩ := List.nodup_cons.1 hn
    rw [lookup_cons_eq, List.filter_cons]
    by_cases hname : name = own
    · subst hname
      have hmissing : rest.lookup name = none := by
        rw [Option.eq_none_iff_forall_not_mem]
        intro value hvalue
        exact hnot (List.mem_map.2 ⟨_, (lookup_eq_some_of_nodup hrest).1 hvalue, rfl⟩)
      simp [ih hrest, hmissing]
    · simp [ih hrest, hname, beq_false_of_ne (Ne.symm hname)]

theorem lookup_entries (map : SortedMap String α) (name : String) :
    map.entries.lookup name = map.get? name := by
  refine Option.ext fun value => ?_
  rw [lookup_eq_some_of_nodup (SortedMap.nodup_keys map), SortedMap.mem_entries]

theorem get?_ofList_of_nodup {entries : List (String × α)} (hn : (entries.map Prod.fst).Nodup)
    (name : String) : (SortedMap.ofList entries).get? name = entries.lookup name := by
  rw [SortedMap.get?_ofList, lookup_reverse_of_nodup hn]

end Lookup

/-- Two objects have one normal form if and only if they have the same values under each name. -/
theorem normal_object_eq_iff {members members' : Members} :
    (object members).normal = (object members').normal ↔
      ∀ name, (members.reverse.lookup name).map normal = (members'.reverse.lookup name).map normal := by
  have hget (members : Members) (name : String) :
      (SortedMap.ofList (normalMembers members)).get? name =
        (members.reverse.lookup name).map normal := by
    rw [SortedMap.get?_ofList, normalMembers_eq, ← List.map_reverse, lookup_map_snd]
  constructor
  · intro h name
    have hmaps := SortedMap.ext_entries (Json.object.inj h)
    rw [← hget, ← hget, hmaps]
  · intro h
    have hmaps : SortedMap.ofList (normalMembers members) =
        SortedMap.ofList (normalMembers members') :=
      SortedMap.ext_get? fun name => by rw [hget, hget, h]
    exact congrArg (fun map => object map.entries) hmaps

/-! ## Views -/

/-- A way of looking at values that may list the members of an object in another order. -/
structure View (view : Json → Json) : Prop where
  string : ∀ text, view (string text) = string text
  array : ∀ items, view (array items) = array (items.map view)
  object : ∀ members : Members, (members.map Prod.fst).Nodup →
    ∃ seen, view (object members) = object seen ∧ (seen.map Prod.fst).Nodup ∧
      ∀ name, seen.lookup name = (members.lookup name).map view

namespace View

theorem id : View id where
  string _ := rfl
  array items := by simp
  object members hn := ⟨members, rfl, hn, fun name => by simp⟩

theorem normal : View normal where
  string _ := rfl
  array items := by rw [Json.normal, normalItems_eq]
  object members hn := by
    have hnames : (normalMembers members).map Prod.fst = members.map Prod.fst := by
      simp [normalMembers_eq]
    refine ⟨_, rfl, SortedMap.nodup_keys _, fun name => ?_⟩
    rw [lookup_entries, get?_ofList_of_nodup (hnames ▸ hn), normalMembers_eq, lookup_map_snd]

end View

/-! ## Fields -/

/-- Members that are called by some of the names, in the same order. -/
def Fields (names : List String) (members : Members) : Prop :=
  (members.map Prod.fst).Sublist names

namespace Fields

variable {α : Type} {names names' : List String} {members members' : Members}

theorem all (members : Members) : Fields (members.map Prod.fst) members := List.Sublist.refl _

theorem whenSome (name : String) (write : α → Json) (field : Option α) :
    Fields [name] (Json.whenSome name write field) := by
  cases field with
  | none => exact List.nil_sublist _
  | some => exact List.Sublist.refl _

theorem whenNonempty (name : String) (write : α → Json) (values : List α) :
    Fields [name] (Json.whenNonempty name write values) := by
  cases values with
  | nil => exact List.nil_sublist _
  | cons => exact List.Sublist.refl _

theorem append (h : Fields names members) (h' : Fields names' members') :
    Fields (names ++ names') (members ++ members') := by
  unfold Fields at *
  rw [List.map_append]
  exact List.Sublist.append h h'

end Fields

section Lookup

variable {α : Type} {name other : String}

@[simp] theorem lookup_whenSome (write : α → Json) (field : Option α) :
    (whenSome name write field).lookup name = field.map write := by
  cases field <;> simp [whenSome]

@[simp] theorem lookup_whenSome_ne (h : other ≠ name) (write : α → Json) (field : Option α) :
    (whenSome name write field).lookup other = none := by
  cases field <;> simp [whenSome, lookup_cons_eq, h]

@[simp] theorem lookup_whenNonempty_ne (h : other ≠ name) (write : α → Json) (values : List α) :
    (whenNonempty name write values).lookup other = none := by
  cases values <;> simp [whenNonempty, lookup_cons_eq, h]

end Lookup

/-! ## Written records -/

/-- The members that a reader finds, in a view of those that were written. -/
def Seen (view : Json → Json) (members seen : Members) : Prop :=
  ∀ name, seen.lookup name = (members.lookup name).map view

/-- A record that was written is read, in a view, if its fields are read where they are seen. -/
theorem View.readsRecord {view : Json → Json} (h : View view) {names : List String}
    {members : Members} (hfields : Fields names members) (hn : names.Nodup) {declared : List String}
    {α : Type} {build : Members → Option α} {x : α}
    (hbuild : ∀ seen, Seen view members seen → build seen = some x) :
    (record? declared (view (Json.object members))).bind build = some x := by
  obtain ⟨seen, hseen, hnodup, hlookup⟩ := h.object members (hn.sublist hfields)
  have honce (name : String) : onceAtMost seen name = true := by
    have hcount := List.nodup_iff_count_le_one.1 hnodup name
    rw [List.count, List.countP_map, List.countP_eq_length_filter] at hcount
    simpa [onceAtMost, Function.comp_def] using hcount
  rw [hseen, record?, if_pos (List.all_eq_true.2 fun name _ => honce name), Option.bind_some]
  exact hbuild seen hlookup

section Reading

variable {α : Type} {view : Json → Json} {read : Json → Option α} {write : α → Json}

/-- Whatever is written is read again, in this view. -/
def ReadsBack (view : Json → Json) (write : α → Json) (read : Json → Option α) : Prop :=
  ∀ x, read (view (write x)) = some x

theorem readsBack_text (h : View view) : ReadsBack view string text? := fun text => by
  rw [h.string]
  rfl

theorem mapM_map {β : Type} {make : α → β} {read : β → Option α} (h : ∀ x, read (make x) = some x)
    (values : List α) : (values.map make).mapM read = some values := by
  induction values with
  | nil => rfl
  | cons value rest ih =>
    rw [List.map_cons, List.mapM_cons, h value, ih]
    rfl

theorem readsBack_list (h : View view) (hread : ReadsBack view write read) :
    ReadsBack view (fun values : List α => array (values.map write)) (list? read) := by
  intro values
  rw [h.array, list?, List.map_map]
  exact mapM_map hread values

namespace Seen

variable {members seen : Members} {name : String}

theorem field (h : Seen view members seen) (hread : ReadsBack view write read) {x : α}
    (hlookup : members.lookup name = some (write x)) : Json.field read name seen = some x := by
  rw [Json.field, h name, hlookup]
  exact hread x

theorem fieldOr (h : Seen view members seen) (hread : ReadsBack view write read) (default : α) {x : α}
    (hlookup : members.lookup name = some (write x)) :
    Json.fieldOr default read name seen = some x := by
  rw [Json.fieldOr, h name, hlookup]
  exact hread x

/-- A list that is left out when it is empty is read as empty when it is missing. -/
theorem fieldOr_whenNonempty (h : Seen view members seen) (hview : View view)
    (hread : ReadsBack view write read) {values : List α}
    (hlookup : members.lookup name = (whenNonempty name write values).lookup name) :
    Json.fieldOr [] (Json.list? read) name seen = some values := by
  cases values with
  | nil =>
    rw [Json.fieldOr, h name, hlookup]
    rfl
  | cons value rest =>
    refine h.fieldOr (readsBack_list hview hread) [] (hlookup.trans ?_)
    exact (lookup_cons_eq ..).trans (if_pos rfl)

theorem optionalField (h : Seen view members seen) (hread : ReadsBack view write read)
    (hnull : read null = none) {x : Option α} (hlookup : members.lookup name = x.map write) :
    Json.optionalField read name seen = some x := by
  have hseen : seen.lookup name = x.map fun value => view (write value) := by
    rw [h name, hlookup, Option.map_map]
    rfl
  exact optionalField_of_lookup hseen hread hnull

end Seen

end Reading

end MeshPolicy.Json
