import MeshPolicy.Proofs.Store.Wire

/-! # Addresses of objects

All operations on an object go to one path, and paths tell objects apart: by their kinds and by what
identifies them inside their kinds. A path is a row of segments, none of which has a slash in it, and so
the segments can be read off again.

* `IsPlainName`, `ObjectId.IsPlain`: names that can stand in a path as they are.
* `Remote.Uses`: the request that an operation sends. `uses_of_request`: what is needed for it.
* `Kind.route`: the segments of a path. `segments_path`, `segments_objectPath`: they are read off again.
* `objectPath_eq_iff`: two objects have one path just if they are one object.
* `objects_keep_addresses`: all operations on an object use its path, and no other object has it.
-/

namespace MeshPolicy
set_option autoImplicit false

open Json

/-! ## Plain names -/

/-- A nonempty text of letters, digits, dashes and dots; all characters beyond ASCII may stand in it. -/
def IsPlainName (text : String) : Prop :=
  text ≠ "" ∧ ∀ c ∈ text.toList, c.isAlphanum = true ∨ c = '-' ∨ c = '.' ∨ 0x80 ≤ c.toNat

instance (text : String) : Decidable (IsPlainName text) :=
  decidable_of_iff (text ≠ "" ∧ text.toList.all fun c =>
      c.isAlphanum = true ∨ c = '-' ∨ c = '.' ∨ 0x80 ≤ c.toNat) <| by
    simp only [IsPlainName, List.all_eq_true, decide_eq_true_eq]

/-- A plain name, in a plain namespace if the kind has namespaces. -/
structure ObjectId.IsPlain (kind : Kind) (id : ObjectId) : Prop where
  name : IsPlainName id.name
  ns : kind.isNamespaced = true → IsPlainName id.ns

theorem toNat_of_isAlphanum {c : Char} (h : c.isAlphanum = true) :
    65 ≤ c.toNat ∧ c.toNat ≤ 90 ∨ 97 ≤ c.toNat ∧ c.toNat ≤ 122 ∨ 48 ≤ c.toNat ∧ c.toNat ≤ 57 := by
  have hrange (least greatest : Char)
      (hin : (decide (least.val ≤ c.val) && decide (c.val ≤ greatest.val)) = true) :
      least.toNat ≤ c.toNat ∧ c.toNat ≤ greatest.toNat := by
    obtain ⟨hleast, hgreatest⟩ := Bool.and_eq_true_iff.1 hin
    exact ⟨of_decide_eq_true hleast, of_decide_eq_true hgreatest⟩
  obtain hletter | hdigit := Bool.or_eq_true_iff.1 h
  · obtain hupper | hlower := Bool.or_eq_true_iff.1 hletter
    · -- Both bounds of a capital are decided at once.
      exact .inl (of_decide_eq_true hupper)
    · exact .inr (.inl (hrange 'a' 'z' hlower))
  · exact .inr (.inr (hrange '0' '9' hdigit))

theorem IsPlainName.inPath {text : String} (h : IsPlainName text) :
    ∀ c ∈ text.toList, Http.Target.inPath c = true := by
  intro c hc
  simp only [Http.Target.inPath, Bool.and_eq_true, bne_iff_ne, decide_eq_true_eq]
  rcases h.2 c hc with hletter | rfl | rfl | hbeyond
  · have hcode := toNat_of_isAlphanum hletter
    omega
  · decide
  · decide
  · omega

theorem IsPlainName.slash_notMem {text : String} (h : IsPlainName text) : '/' ∉ text.toList := by
  intro hslash
  rcases h.2 '/' hslash with h | h | h | h <;> exact absurd h (by decide)

/-! ## Targets -/

namespace Http.Target

/-- A path that is not too long is the target that it is meant to be; a mark where a query could begin
makes no difference. -/
theorem parse?_path {path mark : String} (hpath : ∀ c ∈ path.toList, inPath c = true)
    (hmark : mark = "" ∨ mark = "?") :
    parse? (path ++ mark) =
      if maxBytes < (path ++ mark).utf8ByteSize then none else some { path } := by
  have hnotIn : ∀ stop, inPath stop = false → ∀ c ∈ path.toList, (c != stop) = true := by
    intro stop hstop c hc
    have hne : c ≠ stop := fun heq => absurd (hpath c hc) (by simp [heq, hstop])
    exact bne_iff_ne.2 hne
  have hall : path.toList.all inPath = true := List.all_eq_true.2 hpath
  have hfragment : (path ++ mark).toList.takeWhile (· != '#') = path.toList ++ mark.toList := by
    rw [String.toList_append, List.takeWhile_append_of_pos (hnotIn '#' rfl)]
    rcases hmark with rfl | rfl <;> rfl
  have hbefore : (path.toList ++ mark.toList).takeWhile (· != '?') = path.toList := by
    rw [List.takeWhile_append_of_pos (hnotIn '?' rfl)]
    rcases hmark with rfl | rfl <;> exact List.append_nil _
  have hafter : ((path.toList ++ mark.toList).dropWhile (· != '?')).drop 1 = [] := by
    rw [List.dropWhile_append_of_pos (hnotIn '?' rfl)]
    rcases hmark with rfl | rfl <;> rfl
  unfold parse?
  by_cases hlong : maxBytes < (path ++ mark).utf8ByteSize
  · rw [if_pos hlong, if_pos hlong]
  · rw [if_neg hlong, if_neg hlong]
    simp only [hfragment, hbefore, hafter, hall, String.ofList_toList]
    rfl

end Http.Target

namespace Remote

/-! ## Requests that are used -/

section

variable {σ : Type} [Resource σ]

/-- An operation uses a request: it asks for this request at any length of its path, sends it over any
transport unless the path is longer than any that can be sent, and sends nothing else. -/
structure Uses (call : StoreCall σ) (request : Http.Request) : Prop where
  asked : ∃ mark, (mark = "" ∨ mark = "?") ∧
    request? call = requestTo? request.method (request.target.path ++ mark) request.body
  sent : request.target.path.utf8ByteSize < Http.Target.maxBytes →
    ∀ {ω : Type} (send : Transport ω) (log : List Http.Request) (world : ω),
      ((store (logging send)).answer call (log, world)).2.1 = log ++ [request]
  nothingElse : ∀ {ω : Type} (send : Transport ω) (log : List Http.Request) (world : ω),
    ((store (logging send)).answer call (log, world)).2.1 = log ++ [request] ∨
      ((store (logging send)).answer call (log, world)).2.1 = log

theorem uses_of_request {call : StoreCall σ} {method : Http.Method} {path mark : String}
    {body : Option Json} (hpath : ∀ c ∈ path.toList, Http.Target.inPath c = true)
    (hmark : mark = "" ∨ mark = "?")
    (h : request? call = requestTo? method (path ++ mark) body) :
    Uses call { method, target := { path }, body } := by
  have hrequest : request? call =
      if Http.Target.maxBytes < (path ++ mark).utf8ByteSize then none
      else some { method, target := { path }, body } := by
    rw [h, requestTo?, Http.Target.parse?_path hpath hmark]
    split <;> rfl
  refine ⟨⟨mark, hmark, h⟩, fun hshort ω send log world => ?_, fun send log world => ?_⟩
  · have hbytes : (path ++ mark).utf8ByteSize ≤ path.utf8ByteSize + 1 := by
      rw [String.utf8ByteSize_append]
      rcases hmark with rfl | rfl
      · exact Nat.le_succ _
      · exact Nat.le_refl _
    rw [log_answer, hrequest, if_neg (by simp only at hshort; omega)]
    rfl
  · rw [log_answer, hrequest]
    by_cases hlong : Http.Target.maxBytes < (path ++ mark).utf8ByteSize
    · rw [if_pos hlong]
      exact .inr (List.append_nil _)
    · rw [if_neg hlong]
      exact .inl rfl

end

/-! ## Paths -/

/-- The path of an object: of its collection, with its name behind. -/
def objectPath (kind : Kind) (id : ObjectId) : String := collection kind id.ns ++ "/" ++ id.name

end Remote

namespace Kind

theorem kind_spec (kind : Kind) : Resource.kind kind.Spec = kind := by
  cases kind <;> rfl

/-- The part of an identity that is in the path of a collection. -/
def place (kind : Kind) (id : ObjectId) : Option String :=
  if kind.isNamespaced then some id.ns else none

/-- The segments of a path: of a collection, or of an object in it. -/
def route (kind : Kind) (ns name : Option String) : List String :=
  ["", "apis", kind.group, kind.version] ++ (ns.map fun ns => ["namespaces", ns]).getD [] ++
    kind.plural :: name.toList

def segments (path : String) : List String := (path.toList.splitOn '/').map String.ofList

theorem toList_path (kind : Kind) (ns : Option String) :
    (kind.path ns).toList = ['/'].intercalate ((kind.route ns none).map String.toList) := by
  cases ns <;> simp [path, route, apiVersion, List.intercalate_cons_cons]

theorem toList_objectPath (kind : Kind) (id : ObjectId) :
    (Remote.objectPath kind id).toList =
      ['/'].intercalate ((kind.route (kind.place id) (some id.name)).map String.toList) := by
  have hcollection : Remote.collection kind id.ns = kind.path (kind.place id) := rfl
  rw [Remote.objectPath, String.toList_append, String.toList_append, hcollection, toList_path]
  cases kind.place id <;> simp [route, List.intercalate_cons_cons]

/-! ### Reading the segments off again -/

theorem segments_of_intercalate {path : String} {route : List String} (hne : route ≠ [])
    (hpath : path.toList = ['/'].intercalate (route.map String.toList))
    (hslash : ∀ segment ∈ route, '/' ∉ segment.toList) : segments path = route := by
  have hsplit : (['/'].intercalate (route.map String.toList)).splitOn '/' =
      route.map String.toList :=
    List.splitOn_intercalate '/' (by simpa using hslash) (by simpa using hne)
  rw [segments, hpath, hsplit, List.map_map]
  exact List.map_id'' (fun _ => String.ofList_toList) route

theorem slash_notMem_route (kind : Kind) {ns name : Option String}
    (hns : ∀ text ∈ ns, '/' ∉ text.toList) (hname : ∀ text ∈ name, '/' ∉ text.toList) :
    ∀ segment ∈ kind.route ns name, '/' ∉ segment.toList := by
  have hfixed : ∀ segment ∈ ["", "apis", kind.group, kind.version, kind.plural],
      '/' ∉ segment.toList := by
    cases kind <;> decide
  simp only [List.forall_mem_cons] at hfixed
  obtain ⟨hempty, hapis, hgroup, hversion, hplural, -⟩ := hfixed
  have hplace : ∀ segment ∈ (ns.map fun ns => ["namespaces", ns]).getD [], '/' ∉ segment.toList := by
    cases ns with
    | none => simp
    | some ns => simpa using hns ns rfl
  simp only [route, List.forall_mem_append, List.forall_mem_cons, Option.mem_toList]
  exact ⟨⟨⟨hempty, hapis, hgroup, hversion, by simp⟩, hplace⟩, hplural, hname⟩

theorem segments_path (kind : Kind) {ns : Option String} (hns : ∀ text ∈ ns, '/' ∉ text.toList) :
    segments (kind.path ns) = kind.route ns none :=
  segments_of_intercalate (by simp [route]) (kind.toList_path ns)
    (kind.slash_notMem_route hns (by simp))

theorem isPlainName_place {kind : Kind} {id : ObjectId} (hplain : id.IsPlain kind) :
    ∀ text ∈ kind.place id, IsPlainName text := by
  intro text htext
  unfold place at htext
  split at htext
  · next hspaced => exact Option.some.inj htext ▸ hplain.ns hspaced
  · cases htext

theorem segments_objectPath {kind : Kind} {id : ObjectId} (hplain : id.IsPlain kind) :
    segments (Remote.objectPath kind id) = kind.route (kind.place id) (some id.name) :=
  segments_of_intercalate (by simp [route]) (kind.toList_objectPath id)
    (kind.slash_notMem_route (fun text htext => (isPlainName_place hplain text htext).slash_notMem)
      (by simpa using hplain.name.slash_notMem))

/-! ### Characters -/

theorem inPath_path (kind : Kind) {ns : Option String} (hns : ∀ text ∈ ns, IsPlainName text) :
    ∀ c ∈ (kind.path ns).toList, Http.Target.inPath c = true := by
  have hfixed : ∀ text ∈ ["/apis/", kind.apiVersion, "/", "namespaces/", kind.plural],
      text.toList.all Http.Target.inPath = true := by
    cases kind <;> decide
  simp only [List.forall_mem_cons, List.all_eq_true] at hfixed
  obtain ⟨hapis, hversion, hslash, hnamespaces, hplural, -⟩ := hfixed
  cases ns with
  | none =>
    simp only [path, String.toList_append, List.forall_mem_append]
    exact ⟨⟨⟨⟨hapis, hversion⟩, hslash⟩, by simp⟩, hplural⟩
  | some ns =>
    simp only [path, String.toList_append, List.forall_mem_append]
    exact ⟨⟨⟨⟨hapis, hversion⟩, hslash⟩, ⟨hnamespaces, (hns ns rfl).inPath⟩, hslash⟩, hplural⟩

end Kind

namespace Remote

open Kind

theorem inPath_objectPath {kind : Kind} {id : ObjectId} (hplain : id.IsPlain kind) :
    ∀ c ∈ (objectPath kind id).toList, Http.Target.inPath c = true := by
  have hcollection : ∀ c ∈ (collection kind id.ns).toList, Http.Target.inPath c = true :=
    kind.inPath_path (isPlainName_place hplain)
  simp only [objectPath, String.toList_append, List.forall_mem_append]
  exact ⟨⟨hcollection, List.all_eq_true.1 (by decide)⟩, hplain.name.inPath⟩

/-! ## Paths tell objects apart -/

/-- Two objects have one path just if they are of one kind and have the same name, and the same
namespace if the kind has namespaces. -/
theorem objectPath_eq_iff {kind kind' : Kind} {id id' : ObjectId} (hplain : id.IsPlain kind)
    (hplain' : id'.IsPlain kind') :
    objectPath kind id = objectPath kind' id' ↔
      kind = kind' ∧ id.name = id'.name ∧ (kind.isNamespaced = true → id.ns = id'.ns) := by
  constructor
  · intro heq
    have hroute : kind.route (kind.place id) (some id.name) =
        kind'.route (kind'.place id') (some id'.name) := by
      rw [← segments_objectPath hplain, heq, segments_objectPath hplain']
    cases kind <;> cases kind' <;>
      simp_all [route, place, isNamespaced, group, version, plural]
  · rintro ⟨rfl, hname, hns⟩
    have hplace : kind.place id = kind.place id' := by
      unfold place
      split
      · next hspaced => rw [hns hspaced]
      · rfl
    have hcollection : collection kind id.ns = collection kind id'.ns :=
      congrArg kind.path hplace
    rw [objectPath, objectPath, hcollection, hname]

/-- The path of a listing has no segment of a namespace, and is neither that of an object nor that of
a collection inside a namespace. -/
theorem listPath_apart (kind : Kind) {kind' : Kind} {id' : ObjectId} (hplain' : id'.IsPlain kind') :
    "namespaces" ∉ segments (kind.path none) ∧ kind.path none ≠ objectPath kind' id' ∧
      (kind'.isNamespaced = true → kind.path none ≠ collection kind' id'.ns) := by
  have hlist : segments (kind.path none) = kind.route none none := kind.segments_path (by simp)
  have hspace : "namespaces" ∉ kind.route none none := by cases kind <;> decide
  refine ⟨hlist ▸ hspace, fun heq => ?_, fun hspaced heq => ?_⟩
  · -- A listing has one segment less than an object of the whole cluster.
    have hlength := congrArg List.length (segments_objectPath hplain')
    rw [← heq, hlist] at hlength
    cases hplace : kind'.place id' <;> simp [route, hplace] at hlength
  · have hcollection : collection kind' id'.ns = kind'.path (some id'.ns) := by
      rw [collection, if_pos hspaced]
    have hsegments : segments (kind'.path (some id'.ns)) = kind'.route (some id'.ns) none :=
      kind'.segments_path (by simpa using (hplain'.ns hspaced).slash_notMem)
    rw [← hcollection, ← heq, hlist] at hsegments
    exact hspace (hsegments ▸ by simp [route])

/-! ## What the operations use -/

section

variable {σ : Type} [Resource σ]

theorem uses_list : Uses (.list : StoreCall σ)
    { method := .get, target := { path := (Resource.kind σ).path none } } :=
  uses_of_request (inPath_path _ (by simp)) (.inr rfl) rfl

theorem address?_eq_objectPath {kind : Kind} {id : ObjectId} (hplain : id.IsPlain kind) :
    address? kind id = some (objectPath kind id) := if_neg hplain.name.1

theorem uses_get {id : ObjectId} (hplain : id.IsPlain (Resource.kind σ)) :
    Uses (.get id : StoreCall σ)
      { method := .get, target := { path := objectPath (Resource.kind σ) id } } := by
  have hrequest : request? (.get id : StoreCall σ) =
      requestTo? .get (objectPath (Resource.kind σ) id ++ "") := by
    rw [request?, getRequest?, address?_eq_objectPath hplain, Option.bind_some, String.append_empty]
  exact uses_of_request (inPath_objectPath hplain) (.inl rfl) hrequest

theorem uses_delete {id : ObjectId} (hplain : id.IsPlain (Resource.kind σ)) :
    Uses (.delete id : StoreCall σ)
      { method := .delete, target := { path := objectPath (Resource.kind σ) id }
        body := some (Json.object []) } := by
  refine uses_of_request (inPath_objectPath hplain) (.inr rfl) ?_
  rw [request?, deleteRequest?, address?_eq_objectPath hplain, Option.bind_some]

variable {object : Object σ} {id : ObjectId}

theorem uses_create (hid : object.id? = some id) (hplain : id.IsPlain (Resource.kind σ)) :
    Uses (.create object)
      { method := .post, target := { path := collection (Resource.kind σ) id.ns }
        body := some (encode object) } := by
  refine uses_of_request (inPath_path _ (isPlainName_place hplain)) (.inr rfl) ?_
  rw [request?, hid, Option.bind_some]
  rfl

theorem uses_replace (hid : object.id? = some id) (hplain : id.IsPlain (Resource.kind σ)) :
    Uses (.replace object)
      { method := .put, target := { path := objectPath (Resource.kind σ) id }
        body := some (encode object) } := by
  refine uses_of_request (inPath_objectPath hplain) (.inr rfl) ?_
  rw [request?, hid, Option.bind_some, replaceRequest?, address?_eq_objectPath hplain,
    Option.bind_some]

end

/-! ## All kinds -/

/-- An object is created in its collection, and all other operations on it use its path. What is
written can be read again. -/
structure KeepsAddress {kind : Kind} (object : Object kind.Spec) (id : ObjectId) : Prop where
  create : Uses (.create object)
    { method := .post, target := { path := collection kind id.ns }, body := some (encode object) }
  replace : Uses (.replace object)
    { method := .put, target := { path := objectPath kind id }, body := some (encode object) }
  get : Uses (.get id : StoreCall kind.Spec)
    { method := .get, target := { path := objectPath kind id } }
  delete : Uses (.delete id : StoreCall kind.Spec)
    { method := .delete, target := { path := objectPath kind id }, body := some (Json.object []) }
  objectPath_eq : objectPath kind id = collection kind id.ns ++ "/" ++ id.name
  readsBack : decode (encode object) = some object

theorem keepsAddress {kind : Kind} {object : Object kind.Spec} {id : ObjectId}
    (hid : object.id? = some id) (hplain : id.IsPlain kind) : KeepsAddress object id := by
  have hplain : id.IsPlain (Resource.kind kind.Spec) := by rwa [kind_spec]
  refine ⟨?_, ?_, ?_, ?_, rfl, Object.readsBack_encode .id kind.readsBack_encode object⟩
  · simpa only [kind_spec] using uses_create hid hplain
  · simpa only [kind_spec] using uses_replace hid hplain
  · simpa only [kind_spec] using uses_get hplain
  · simpa only [kind_spec] using uses_delete hplain

/-- All operations on an object use the path of its collection with its name behind, and what they
write can be read again. No other object has this path, of whatever kind. A listing uses a path without
a namespace, which is neither that of an object nor that of a collection inside a namespace. -/
theorem objects_keep_addresses {kind : Kind} {object : Object kind.Spec} {id : ObjectId}
    (hid : object.id? = some id) (hplain : id.IsPlain kind) :
    KeepsAddress object id ∧
    (∀ (kind' : Kind) (id' : ObjectId), id'.IsPlain kind' →
      (objectPath kind id = objectPath kind' id' ↔
        kind = kind' ∧ id.name = id'.name ∧ (kind.isNamespaced = true → id.ns = id'.ns))) ∧
    ∀ kind' : Kind,
      Uses (.list : StoreCall kind'.Spec)
        { method := .get, target := { path := kind'.path none } } ∧
      "namespaces" ∉ segments (kind'.path none) ∧
      kind'.path none ≠ objectPath kind id ∧
      (kind.isNamespaced = true → kind'.path none ≠ collection kind id.ns) := by
  refine ⟨keepsAddress hid hplain, fun kind' id' hplain' => objectPath_eq_iff hplain hplain',
    fun kind' => ⟨?_, listPath_apart kind' hplain⟩⟩
  have hlist : Uses (.list : StoreCall kind'.Spec) _ := uses_list
  simpa only [kind_spec] using hlist

/-! ### One name in two namespaces -/

namespace OrdersReader

def shop : ObjectId := ⟨"shop", "orders.reader"⟩

def billing : ObjectId := ⟨"billing", "orders.reader"⟩

def role : Object (Kind.Spec .serviceRole) := .inNamespace shop.ns shop.name {}

theorem isPlain_shop : shop.IsPlain .serviceRole := ⟨by decide, fun _ => by decide⟩

theorem isPlain_billing : billing.IsPlain .serviceRole := ⟨by decide, fun _ => by decide⟩

end OrdersReader

theorem objects_keep_addresses_reader :
    (OrdersReader.role.id? = some OrdersReader.shop ∧ OrdersReader.shop.IsPlain .serviceRole) ∧
    KeepsAddress OrdersReader.role OrdersReader.shop ∧
    objectPath .serviceRole OrdersReader.shop =
      "/apis/rbac.istio.io/v1alpha1/namespaces/shop/serviceroles/orders.reader" ∧
    objectPath .serviceRole OrdersReader.shop ≠ objectPath .serviceRole OrdersReader.billing := by
  have hid : OrdersReader.role.id? = some OrdersReader.shop := rfl
  obtain ⟨hkeeps, hpaths, -⟩ := objects_keep_addresses hid OrdersReader.isPlain_shop
  refine ⟨⟨hid, OrdersReader.isPlain_shop⟩, hkeeps, by decide, fun heq => ?_⟩
  obtain ⟨-, -, hns⟩ := (hpaths .serviceRole _ OrdersReader.isPlain_billing).1 heq
  exact absurd (hns rfl) (by decide)

end Remote

end MeshPolicy
