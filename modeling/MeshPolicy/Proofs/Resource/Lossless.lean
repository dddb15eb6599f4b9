import MeshPolicy.Pass.Plan
import MeshPolicy.Proofs.Json.View
import MeshPolicy.Resource.Enforcement
import MeshPolicy.Resource.RoleBinding
import MeshPolicy.Resource.ServiceRole
import MeshPolicy.Resource.SignedDomain

/-! # The codecs of resources lose nothing

Whatever is written is read again, in whichever order the members of the objects are listed. So no
two values are written alike.

* `readsBack_encode` for each type: what is written is read again, in any view.
* `Lossless`: what this says about a codec. `Lossless.of_readsBack`.
* `Faithful`: what it says about a kind of objects and the comparison of specifications.
* `codecs_lossless`: all kinds of objects and all parts of them.
-/

namespace MeshPolicy
set_option autoImplicit false

open Json

section Parts

variable {view : Json → Json} (h : View view)

include h

/-! ## Metadata -/

namespace TextMap

omit h in
theorem exists_pairs {members : Members} (h : ∀ m ∈ members, ∃ text, m.2 = Json.string text) :
    ∃ pairs : List (String × String), members = pairs.map fun e => (e.1, Json.string e.2) := by
  induction members with
  | nil => exact ⟨[], rfl⟩
  | cons m rest ih =>
    obtain ⟨⟨text, htext⟩, hrest⟩ := List.forall_mem_cons.1 h
    obtain ⟨pairs, rfl⟩ := ih hrest
    exact ⟨(m.1, text) :: pairs, by rw [List.map_cons, ← htext]⟩

theorem readsBack_encode : ReadsBack view TextMap.encode TextMap.decode := by
  intro map
  have hnames : ((map.entries.map fun e => (e.1, Json.string e.2)).map Prod.fst).Nodup := by
    rw [List.map_map]
    exact SortedMap.nodup_keys map
  obtain ⟨seen, hseen, hnodup, hlookup⟩ := h.object _ hnames
  have hfound (name : String) : seen.lookup name = (map.get? name).map Json.string := by
    rw [hlookup, lookup_map_snd, lookup_entries, Option.map_map]
    exact congrArg (fun f => (map.get? name).map f) (funext h.string)
  have htexts : ∀ m ∈ seen, ∃ text, m.2 = Json.string text := by
    intro m hm
    have hvalue : seen.lookup m.1 = some m.2 := (lookup_eq_some_of_nodup hnodup).2 hm
    obtain ⟨text, _, htext⟩ := Option.map_eq_some_iff.1 ((hfound m.1).symm.trans hvalue)
    exact ⟨text, htext.symm⟩
  obtain ⟨pairs, rfl⟩ := exists_pairs htexts
  have hpairs (name : String) : pairs.lookup name = map.get? name := by
    have hstring := (lookup_map_snd Json.string pairs name).symm.trans (hfound name)
    exact Option.map_injective (fun _ _ => Json.string.inj) hstring
  have hown : (pairs.map Prod.fst).Nodup := by simpa [Function.comp_def] using hnodup
  have hmap : SortedMap.ofList pairs = map :=
    SortedMap.ext_get? fun name => by rw [get?_ofList_of_nodup hown, hpairs]
  have hread : (pairs.map fun e => (e.1, Json.string e.2)).mapM
      (fun m => (text? m.2).map fun value => (m.1, value)) = some pairs := by
    apply mapM_map
    intro e
    rfl
  rw [TextMap.encode, hseen]
  show Option.map SortedMap.ofList _ = some map
  rw [hread, Option.map_some, hmap]

end TextMap

namespace Metadata

omit h in
/-- Of members whose names do not repeat, the last one of a name is the first one. -/
theorem lastField_of_lookup {α : Type} {read : Json → Option α} {write : α → Json}
    {members seen : Members} {name : String} {x : Option α} (hseen : Seen view members seen)
    (hnodup : (seen.map Prod.fst).Nodup) (hread : ReadsBack view write read)
    (hnull : read null = none) (hlookup : members.lookup name = x.map write) :
    lastField read name seen = some x := by
  have hvalues : (seen.filter fun m => m.1 == name).map Prod.snd = (seen.lookup name).toList :=
    filter_name_of_nodup hnodup name
  rw [lastField, hvalues, hseen name, hlookup]
  cases x with
  | none => rfl
  | some x =>
    have hx := hread x
    simp only [Option.map_some, Option.toList_some]
    generalize view (write x) = item at hx
    cases item with
    | null =>
      rw [hnull] at hx
      cases hx
    | _ => simp [hx]

theorem readsBack_encode : ReadsBack view (encode : Metadata → Json) decode := by
  intro metadata
  have hfields : Fields ["name", "namespace", "labels", "annotations", "resourceVersion", "uid"] _ :=
    (((((Fields.whenSome "name" string metadata.name).append
      (.whenSome "namespace" string metadata.ns)).append
      (.whenSome "labels" TextMap.encode metadata.labels)).append
      (.whenSome "annotations" TextMap.encode metadata.annotations)).append
      (.whenSome "resourceVersion" string metadata.resourceVersion)).append
      (.whenSome "uid" string metadata.uid)
  obtain ⟨seen, hobject, hnodup, hseen⟩ := h.object _ (List.Nodup.sublist hfields (by decide))
  have htext := readsBack_text h
  have htexts := TextMap.readsBack_encode h
  have hname : lastField text? "name" seen = some metadata.name :=
    lastField_of_lookup hseen hnodup htext rfl (by simp [List.lookup_append])
  have hns : lastField text? "namespace" seen = some metadata.ns :=
    lastField_of_lookup hseen hnodup htext rfl (by simp [List.lookup_append])
  have hlabels : lastField TextMap.decode "labels" seen = some metadata.labels :=
    lastField_of_lookup hseen hnodup htexts rfl (by simp [List.lookup_append])
  have hannotations : lastField TextMap.decode "annotations" seen = some metadata.annotations :=
    lastField_of_lookup hseen hnodup htexts rfl (by simp [List.lookup_append])
  have hversion : lastField text? "resourceVersion" seen = some metadata.resourceVersion :=
    lastField_of_lookup hseen hnodup htext rfl (by simp [List.lookup_append])
  have huid : lastField text? "uid" seen = some metadata.uid :=
    lastField_of_lookup hseen hnodup htext rfl (by simp [List.lookup_append])
  simp only [encode, decode, hobject, hname, hns, hlabels, hannotations, hversion, huid,
    Option.bind_eq_bind, Option.bind_some]

end Metadata

/-! ## Access rules -/

theorem AccessRule.readsBack_encode : ReadsBack view (encode : AccessRule → Json) decode := by
  intro rule
  have hfields : Fields ["services", "paths", "methods"] _ :=
    ((Fields.all [("services", texts rule.services)]).append
      (.whenNonempty "paths" string rule.paths)).append
      (.whenNonempty "methods" string rule.methods)
  refine h.readsRecord hfields (by decide) fun seen hseen => ?_
  have htext := readsBack_text h
  have hservices : fieldOr [] (list? text?) "services" seen = some rule.services :=
    hseen.fieldOr (readsBack_list h htext) [] rfl
  have hpaths : fieldOr [] (list? text?) "paths" seen = some rule.paths :=
    hseen.fieldOr_whenNonempty h htext (by simp [List.lookup_append, lookup_cons_eq])
  have hmethods : fieldOr [] (list? text?) "methods" seen = some rule.methods :=
    hseen.fieldOr_whenNonempty h htext (by simp [List.lookup_append, lookup_cons_eq])
  simp only [hservices, hpaths, hmethods, Option.bind_eq_bind, Option.bind_some]

theorem ServiceRole.readsBack_encode : ReadsBack view (encode : ServiceRole → Json) decode := by
  intro spec
  have hfields : Fields ["rules"] _ := Fields.all [("rules", array (spec.rules.map encode))]
  refine h.readsRecord hfields (by decide) fun seen hseen => ?_
  have hrules : fieldOr [] (list? decode) "rules" seen = some spec.rules :=
    hseen.fieldOr (readsBack_list h (AccessRule.readsBack_encode h)) [] rfl
  simp only [hrules, Option.bind_eq_bind, Option.bind_some]

/-! ## Bindings -/

theorem Subject.readsBack_encode : ReadsBack view (encode : Subject → Json) decode := by
  intro subject
  have hfields : Fields ["user", "group"] _ :=
    (Fields.whenSome "user" string subject.user).append (.whenSome "group" string subject.group)
  refine h.readsRecord hfields (by decide) fun seen hseen => ?_
  have htext := readsBack_text h
  have huser : optionalField text? "user" seen = some subject.user :=
    hseen.optionalField htext rfl (by simp [List.lookup_append])
  have hgroup : optionalField text? "group" seen = some subject.group :=
    hseen.optionalField htext rfl (by simp [List.lookup_append])
  simp only [huser, hgroup, Option.bind_eq_bind, Option.bind_some]

theorem RoleRef.readsBack_encode : ReadsBack view (encode : RoleRef → Json) decode := by
  intro ref
  have hfields : Fields ["kind", "name"] _ :=
    Fields.all [("kind", string ref.kind), ("name", string ref.name)]
  refine h.readsRecord hfields (by decide) fun seen hseen => ?_
  have htext := readsBack_text h
  have hkind : field text? "kind" seen = some ref.kind := hseen.field htext rfl
  have hname : field text? "name" seen = some ref.name := hseen.field htext rfl
  simp only [hkind, hname, Option.bind_eq_bind, Option.bind_some]

theorem RoleBinding.readsBack_encode : ReadsBack view (encode : RoleBinding → Json) decode := by
  intro spec
  have hfields : Fields ["subjects", "roleRef"] _ :=
    Fields.all [("subjects", array (spec.subjects.map encode)), ("roleRef", encode spec.roleRef)]
  refine h.readsRecord hfields (by decide) fun seen hseen => ?_
  have hsubjects : fieldOr [] (list? decode) "subjects" seen = some spec.subjects :=
    hseen.fieldOr (readsBack_list h (Subject.readsBack_encode h)) [] rfl
  have href : field decode "roleRef" seen = some spec.roleRef :=
    hseen.field (RoleRef.readsBack_encode h) rfl
  simp only [hsubjects, href, Option.bind_eq_bind, Option.bind_some]

/-! ## Configs -/

theorem Mode.readsBack_encode : ReadsBack view (encode : Mode → Json) decode := by
  intro mode
  have hname : view (encode mode) = encode mode := h.string mode.name
  rw [hname]
  cases mode <;> rfl

theorem Target.readsBack_encode : ReadsBack view (encode : Target → Json) decode := by
  intro target
  have hfields : Fields ["services", "namespaces"] _ :=
    (Fields.all [("services", texts target.services)]).append
      (.whenNonempty "namespaces" string target.namespaces)
  refine h.readsRecord hfields (by decide) fun seen hseen => ?_
  have htext := readsBack_text h
  have hservices : fieldOr [] (list? text?) "services" seen = some target.services :=
    hseen.fieldOr (readsBack_list h htext) [] rfl
  have hnamespaces : fieldOr [] (list? text?) "namespaces" seen = some target.namespaces :=
    hseen.fieldOr_whenNonempty h htext (by simp [lookup_cons_eq])
  simp only [hservices, hnamespaces, Option.bind_eq_bind, Option.bind_some]

theorem Enforcement.readsBack_encode : ReadsBack view (encode : Enforcement → Json) decode := by
  intro spec
  have hfields : Fields ["mode", "inclusion", "exclusion"] _ :=
    ((Fields.all [("mode", encode spec.mode)]).append
      (.whenSome "inclusion" encode spec.inclusion)).append
      (.whenSome "exclusion" encode spec.exclusion)
  refine h.readsRecord hfields (by decide) fun seen hseen => ?_
  have htarget := Target.readsBack_encode h
  have hmode : fieldOr .off decode "mode" seen = some spec.mode :=
    hseen.fieldOr (Mode.readsBack_encode h) .off rfl
  have hinclusion : optionalField decode "inclusion" seen = some spec.inclusion :=
    hseen.optionalField htarget rfl (by simp [List.lookup_append, lookup_cons_eq])
  have hexclusion : optionalField decode "exclusion" seen = some spec.exclusion :=
    hseen.optionalField htarget rfl (by simp [List.lookup_append, lookup_cons_eq])
  simp only [hmode, hinclusion, hexclusion, Option.bind_eq_bind, Option.bind_some]

/-! ## Signed domains -/

namespace Signed

theorem Member.readsBack_encode : ReadsBack view (encode : Member → Json) decode := by
  intro member
  have hfields : Fields ["memberName"] _ :=
    Fields.all [("memberName", string member.memberName)]
  refine h.readsRecord hfields (by decide) fun seen hseen => ?_
  have hname : field text? "memberName" seen = some member.memberName :=
    hseen.field (readsBack_text h) rfl
  simp only [hname, Option.bind_eq_bind, Option.bind_some]

theorem Role.readsBack_encode : ReadsBack view (encode : Role → Json) decode := by
  intro role
  have hfields : Fields ["name", "members", "roleMembers"] _ :=
    ((Fields.all [("name", string role.name)]).append
      (.whenNonempty "members" string role.members)).append
      (.whenNonempty "roleMembers" encode role.roleMembers)
  refine h.readsRecord hfields (by decide) fun seen hseen => ?_
  have hname : field text? "name" seen = some role.name := hseen.field (readsBack_text h) rfl
  have hmembers : fieldOr [] (list? text?) "members" seen = some role.members :=
    hseen.fieldOr_whenNonempty h (readsBack_text h) (by simp [List.lookup_append, lookup_cons_eq])
  have hroleMembers : fieldOr [] (list? decode) "roleMembers" seen = some role.roleMembers :=
    hseen.fieldOr_whenNonempty h (Member.readsBack_encode h)
      (by simp [List.lookup_append, lookup_cons_eq])
  simp only [hname, hmembers, hroleMembers, Option.bind_eq_bind, Option.bind_some]

theorem Assertion.readsBack_encode : ReadsBack view (encode : Assertion → Json) decode := by
  intro a
  have hfields : Fields ["role", "resource", "action", "effect"] _ :=
    (Fields.all [("role", string a.role), ("resource", string a.resource),
      ("action", string a.action)]).append (.whenSome "effect" string a.effect)
  refine h.readsRecord hfields (by decide) fun seen hseen => ?_
  have htext := readsBack_text h
  have hrole : field text? "role" seen = some a.role := hseen.field htext rfl
  have hresource : field text? "resource" seen = some a.resource := hseen.field htext rfl
  have haction : field text? "action" seen = some a.action := hseen.field htext rfl
  have heffect : optionalField text? "effect" seen = some a.effect :=
    hseen.optionalField htext rfl (by simp [lookup_cons_eq])
  simp only [hrole, hresource, haction, heffect, Option.bind_eq_bind, Option.bind_some]

theorem Policy.readsBack_encode : ReadsBack view (encode : Policy → Json) decode := by
  intro policy
  have hfields : Fields ["name", "assertions"] _ :=
    Fields.all [("name", string policy.name), ("assertions", array (policy.assertions.map encode))]
  refine h.readsRecord hfields (by decide) fun seen hseen => ?_
  have hname : field text? "name" seen = some policy.name := hseen.field (readsBack_text h) rfl
  have hassertions : fieldOr [] (list? decode) "assertions" seen = some policy.assertions :=
    hseen.fieldOr (readsBack_list h (Assertion.readsBack_encode h)) [] rfl
  simp only [hname, hassertions, Option.bind_eq_bind, Option.bind_some]

theorem PolicyList.readsBack_encode : ReadsBack view (encode : PolicyList → Json) decode := by
  intro list
  have hfields : Fields ["domain", "policies"] _ :=
    Fields.all [("domain", string list.domain), ("policies", array (list.policies.map encode))]
  refine h.readsRecord hfields (by decide) fun seen hseen => ?_
  have hdomain : fieldOr "" text? "domain" seen = some list.domain :=
    hseen.fieldOr (readsBack_text h) "" rfl
  have hpolicies : fieldOr [] (list? decode) "policies" seen = some list.policies :=
    hseen.fieldOr (readsBack_list h (Policy.readsBack_encode h)) [] rfl
  simp only [hdomain, hpolicies, Option.bind_eq_bind, Option.bind_some]

theorem Policies.readsBack_encode : ReadsBack view (encode : Policies → Json) decode := by
  intro policies
  have hfields : Fields ["contents", "signature", "keyId"] _ :=
    ((Fields.all [("contents", encode policies.contents)]).append
      (.whenSome "signature" string policies.signature)).append
      (.whenSome "keyId" string policies.keyId)
  refine h.readsRecord hfields (by decide) fun seen hseen => ?_
  have htext := readsBack_text h
  have hcontents : fieldOr {} decode "contents" seen = some policies.contents :=
    hseen.fieldOr (PolicyList.readsBack_encode h) {} rfl
  have hsignature : optionalField text? "signature" seen = some policies.signature :=
    hseen.optionalField htext rfl (by simp [List.lookup_append, lookup_cons_eq])
  have hkeyId : optionalField text? "keyId" seen = some policies.keyId :=
    hseen.optionalField htext rfl (by simp [List.lookup_append, lookup_cons_eq])
  simp only [hcontents, hsignature, hkeyId, Option.bind_eq_bind, Option.bind_some]

theorem Content.readsBack_encode : ReadsBack view (encode : Content → Json) decode := by
  intro content
  have hfields : Fields ["name", "roles", "policies"] _ :=
    (Fields.all [("name", string content.name), ("roles", array (content.roles.map encode))]).append
      (.whenSome "policies" encode content.policies)
  refine h.readsRecord hfields (by decide) fun seen hseen => ?_
  have hname : field text? "name" seen = some content.name := hseen.field (readsBack_text h) rfl
  have hroles : fieldOr [] (list? decode) "roles" seen = some content.roles :=
    hseen.fieldOr (readsBack_list h (Role.readsBack_encode h)) [] rfl
  have hpolicies : optionalField decode "policies" seen = some content.policies :=
    hseen.optionalField (Policies.readsBack_encode h) rfl
      (by simp [lookup_cons_eq])
  simp only [hname, hroles, hpolicies, Option.bind_eq_bind, Option.bind_some]

end Signed

theorem SignedDomain.readsBack_encode : ReadsBack view (encode : SignedDomain → Json) decode := by
  intro spec
  have hfields : Fields ["domain", "signature", "keyId"] _ :=
    ((Fields.all [("domain", encode spec.domain)]).append
      (.whenSome "signature" string spec.signature)).append (.whenSome "keyId" string spec.keyId)
  refine h.readsRecord hfields (by decide) fun seen hseen => ?_
  have htext := readsBack_text h
  have hdomain : fieldOr { name := "" } decode "domain" seen = some spec.domain :=
    hseen.fieldOr (Signed.Content.readsBack_encode h) { name := "" } rfl
  have hsignature : optionalField text? "signature" seen = some spec.signature :=
    hseen.optionalField htext rfl (by simp [List.lookup_append, lookup_cons_eq])
  have hkeyId : optionalField text? "keyId" seen = some spec.keyId :=
    hseen.optionalField htext rfl (by simp [List.lookup_append, lookup_cons_eq])
  simp only [hdomain, hsignature, hkeyId, Option.bind_eq_bind, Option.bind_some]

/-! ## Objects -/

theorem Object.readsBack_encode {σ : Type} [Resource σ]
    (hspec : ReadsBack view (encode : σ → Json) decode) :
    ReadsBack view (encode : Object σ → Json) decode := by
  intro o
  have hfields : Fields ["apiVersion", "kind", "metadata", "spec"] _ :=
    Fields.all [("apiVersion", string (Resource.kind σ).apiVersion),
      ("kind", string (Resource.kind σ).name), ("metadata", encode o.metadata),
      ("spec", encode o.spec)]
  refine h.readsRecord hfields (by decide) fun seen hseen => ?_
  have hmetadata : field decode "metadata" seen = some o.metadata :=
    hseen.field (Metadata.readsBack_encode h) rfl
  have hspec : field decode "spec" seen = some o.spec := hseen.field hspec rfl
  simp only [hmetadata, hspec, Option.bind_eq_bind, Option.bind_some]

end Parts

/-! ## Nothing is lost -/

/-- The value that is written for what is read. -/
def recode {α : Type} (write : α → Json) (read : Json → Option α) (value : Json) : Option Json :=
  (read value).map write

/-- What is written is read again. Hence nothing is written like anything else, what was read is
written the same way ever after, and two readable values stand for the same thing if and only if
they are written as the same object, whatever the order of its members. -/
structure Lossless {α : Type} (write : α → Json) (read : Json → Option α) : Prop where
  read_write : ∀ x, read (write x) = some x
  injective : Function.Injective write
  recode_recode : ∀ value again, recode write read value = some again →
    recode write read again = some again
  eq_iff : ∀ value value' x x', read value = some x → read value' = some x' →
    (x = x' ↔ (write x).normal = (write x').normal)

section

variable {α : Type} {write : α → Json} {read : Json → Option α}

/-- Values that are written as the same object are the same. -/
theorem eq_of_normal_eq (h : ∀ view, View view → ReadsBack view write read) {x x' : α}
    (hnormal : (write x).normal = (write x').normal) : x = x' := by
  have hx := h normal .normal x
  rw [hnormal, h normal .normal x'] at hx
  exact (Option.some.inj hx).symm

theorem Lossless.of_readsBack (h : ∀ view, View view → ReadsBack view write read) :
    Lossless write read where
  read_write := h id .id
  injective _ _ heq := eq_of_normal_eq h (congrArg normal heq)
  recode_recode value again hagain := by
    obtain ⟨x, _, rfl⟩ := Option.map_eq_some_iff.1 hagain
    have hx : read (write x) = some x := h id .id x
    rw [recode, hx, Option.map_some]
  eq_iff _ _ _ _ _ _ := ⟨fun heq => heq ▸ rfl, eq_of_normal_eq h⟩

end

/-- Objects and their specifications are written without loss, and an object counts as unchanged if
and only if the same specification would be written. -/
structure Faithful (σ : Type) [Resource σ] [DecidableEq σ] : Prop where
  object : Lossless (encode : Object σ → Json) decode
  spec : Lossless (encode : σ → Json) decode
  unchanged : ∀ live desired : Object σ,
    revision? live desired = none ↔ (encode live.spec).normal = (encode desired.spec).normal

theorem Faithful.of_readsBack {σ : Type} [Resource σ] [DecidableEq σ]
    (h : ∀ view, View view → ReadsBack view (encode : σ → Json) decode) : Faithful σ where
  object := .of_readsBack fun view hview => Object.readsBack_encode hview (h view hview)
  spec := .of_readsBack h
  unchanged live desired := by
    rw [revision?]
    constructor
    · intro hsame
      split at hsame
      next hspec => rw [hspec]
      next => cases hsame
    · intro hnormal
      rw [if_pos (eq_of_normal_eq h hnormal)]

/-- The codecs of all kinds of objects, of their metadata and of all parts of their specifications
lose nothing. -/
theorem codecs_lossless :
    (Faithful ServiceRole ∧ Faithful RoleBinding ∧ Faithful Enforcement ∧ Faithful SignedDomain) ∧
    (Lossless (encode : Metadata → Json) decode ∧ Lossless TextMap.encode TextMap.decode) ∧
    Lossless (encode : AccessRule → Json) decode ∧
    (Lossless (encode : Subject → Json) decode ∧ Lossless (encode : RoleRef → Json) decode) ∧
    (Lossless (encode : Mode → Json) decode ∧ Lossless (encode : Target → Json) decode) ∧
    Lossless (encode : Signed.Member → Json) decode ∧
    Lossless (encode : Signed.Role → Json) decode ∧
    Lossless (encode : Signed.Assertion → Json) decode ∧
    Lossless (encode : Signed.Policy → Json) decode ∧
    Lossless (encode : Signed.PolicyList → Json) decode ∧
    Lossless (encode : Signed.Policies → Json) decode ∧
    Lossless (encode : Signed.Content → Json) decode := by
  refine ⟨⟨?_, ?_, ?_, ?_⟩, ⟨?_, ?_⟩, ?_, ⟨?_, ?_⟩, ⟨?_, ?_⟩, ?_, ?_, ?_, ?_, ?_, ?_, ?_⟩
  · exact .of_readsBack fun _ => ServiceRole.readsBack_encode
  · exact .of_readsBack fun _ => RoleBinding.readsBack_encode
  · exact .of_readsBack fun _ => Enforcement.readsBack_encode
  · exact .of_readsBack fun _ => SignedDomain.readsBack_encode
  · exact .of_readsBack fun _ => Metadata.readsBack_encode
  · exact .of_readsBack fun _ => TextMap.readsBack_encode
  · exact .of_readsBack fun _ => AccessRule.readsBack_encode
  · exact .of_readsBack fun _ => Subject.readsBack_encode
  · exact .of_readsBack fun _ => RoleRef.readsBack_encode
  · exact .of_readsBack fun _ => Mode.readsBack_encode
  · exact .of_readsBack fun _ => Target.readsBack_encode
  · exact .of_readsBack fun _ => Signed.Member.readsBack_encode
  · exact .of_readsBack fun _ => Signed.Role.readsBack_encode
  · exact .of_readsBack fun _ => Signed.Assertion.readsBack_encode
  · exact .of_readsBack fun _ => Signed.Policy.readsBack_encode
  · exact .of_readsBack fun _ => Signed.PolicyList.readsBack_encode
  · exact .of_readsBack fun _ => Signed.Policies.readsBack_encode
  · exact .of_readsBack fun _ => Signed.Content.readsBack_encode

end MeshPolicy
