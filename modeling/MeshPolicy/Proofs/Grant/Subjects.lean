import MeshPolicy.Proofs.Grant.Access
import Mathlib.Data.Set.Function

/-! # The subjects of bindings

A binding names the members that can be rendered, and only those.

* `IsPrincipal`: a member is cut at its last dot into a domain and a name, neither of them empty.
* `IsRenderable`: there is such a cut.
* `subject_inj`: subjects whose names have no slash are told apart by their last slash.
* `bindings_name_renderable`: what is rendered, and what a binding makes of a list of members.
-/

namespace MeshPolicy
set_option autoImplicit false

namespace Naming

/-- The member belongs to `domain` and is called `name` there. -/
structure IsPrincipal (member domain name : String) : Prop where
  cut : member = domain ++ "." ++ name
  last : '.' ∉ name.toList
  domain_ne : domain ≠ ""
  name_ne : name ≠ ""

/-- The member can be written as a mesh subject. -/
def IsRenderable (member : String) : Prop := ∃ domain name, IsPrincipal member domain name

variable {member domain name : String}

theorem IsPrincipal.memberSubject_eq (h : IsPrincipal member domain name) :
    memberSubject member = .ok (domain ++ "/sa/" ++ name) :=
  memberSubject_eq_ok_iff.2 ⟨domain, name, h.cut, h.last, h.domain_ne, h.name_ne, rfl⟩

theorem isRenderable_iff : IsRenderable member ↔ ∃ subject, memberSubject member = .ok subject := by
  constructor
  · intro h
    obtain ⟨domain, name, hmember⟩ := h
    exact ⟨_, hmember.memberSubject_eq⟩
  · intro h
    obtain ⟨subject, hok⟩ := h
    obtain ⟨domain, name, hcut, hlast, hdomain, hname, _⟩ := memberSubject_eq_ok_iff.1 hok
    exact ⟨domain, name, hcut, hlast, hdomain, hname⟩

theorem memberSubject_of_not_isRenderable (h : ¬ IsRenderable member) :
    memberSubject member = .error (.malformedMember member) := by
  rw [isRenderable_iff] at h
  unfold memberSubject at h ⊢
  split
  next hsplit => exact absurd ⟨_, by rw [hsplit]⟩ h
  next => rfl

instance : DecidablePred IsRenderable := fun member =>
  decidable_of_iff ((memberSubject member).toOption.isSome = true) <| by
    rw [isRenderable_iff]
    cases memberSubject member <;> simp [Except.toOption]

/-- The last slash of a subject stands in front of the name, if the name has none. -/
theorem splitLast_subject (domain : String) (h : '/' ∉ name.toList) :
    Text.splitLast '/' (domain ++ "/sa/" ++ name).toList =
      some ((domain ++ "/sa").toList, name.toList) := by
  have hinfix : ("/sa/").toList = ("/sa").toList ++ ['/'] := rfl
  refine Text.splitLast_eq_some_iff.2 ⟨?_, h⟩
  simp only [String.toList_append, hinfix, List.append_assoc, List.singleton_append]

theorem subject_inj {domain' name' : String} (h : '/' ∉ name.toList) (h' : '/' ∉ name'.toList)
    (heq : domain ++ "/sa/" ++ name = domain' ++ "/sa/" ++ name') :
    domain = domain' ∧ name = name' := by
  have hparts := splitLast_subject domain h
  rw [heq, splitLast_subject domain' h', Option.some.injEq, Prod.mk.injEq] at hparts
  obtain ⟨hdomain, hname⟩ := hparts
  exact ⟨(String.append_left_inj "/sa").1 (String.toList_injective hdomain).symm,
    (String.toList_injective hname).symm⟩

end Naming

open Naming

namespace Grant

/-- The subject is the user that stands for the member, and no group. -/
def Renders (member : String) (subject : Subject) : Prop :=
  ∃ domain name, IsPrincipal member domain name ∧
    subject = { user := some (domain ++ "/sa/" ++ name), group := none }

theorem subjects_cons_of_isPrincipal {member domain name : String}
    (h : IsPrincipal member domain name) (members : List String) :
    subjects (member :: members) = .ofUser (domain ++ "/sa/" ++ name) :: subjects members := by
  rw [subjects, List.filterMap_cons, h.memberSubject_eq]
  rfl

theorem subjects_cons_of_not_isRenderable {member : String} (h : ¬ IsRenderable member)
    (members : List String) : subjects (member :: members) = subjects members := by
  rw [subjects, List.filterMap_cons, memberSubject_of_not_isRenderable h]
  rfl

/-- Each member that can be rendered has its subject, in order, and nothing else has one. -/
theorem renders_subjects (members : List String) :
    List.Forall₂ Renders (members.filter IsRenderable) (subjects members) := by
  induction members with
  | nil => exact .nil
  | cons member rest ih =>
    by_cases h : IsRenderable member
    · obtain ⟨domain, name, hmember⟩ := h
      rw [List.filter_cons_of_pos (by simpa using ⟨domain, name, hmember⟩),
        subjects_cons_of_isPrincipal hmember]
      exact .cons ⟨domain, name, hmember, rfl⟩ ih
    · rw [List.filter_cons_of_neg (by simpa using h), subjects_cons_of_not_isRenderable h]
      exact ih

theorem subjects_filter (members : List String) :
    subjects (members.filter IsRenderable) = subjects members := by
  induction members with
  | nil => rfl
  | cons member rest ih =>
    by_cases h : IsRenderable member
    · rw [List.filter_cons_of_pos (by simpa using h)]
      obtain ⟨domain, name, hmember⟩ := h
      rw [subjects_cons_of_isPrincipal hmember, subjects_cons_of_isPrincipal hmember, ih]
    · rw [List.filter_cons_of_neg (by simpa using h), subjects_cons_of_not_isRenderable h, ih]

theorem subjects_eq_nil_iff {members : List String} :
    subjects members = [] ↔ ∀ member ∈ members, ¬ IsRenderable member := by
  rw [← not_iff_not, ← ne_eq, subjects_ne_nil_iff]
  simp only [← isRenderable_iff, not_forall, not_not, exists_prop]

theorem binding?_eq_none_iff {ns name : String} {members : List String} :
    binding? ns name members = none ↔ ∀ member ∈ members, ¬ IsRenderable member := by
  rw [← subjects_eq_nil_iff]
  unfold binding?
  split
  next hnil => exact iff_of_true rfl hnil
  next hne => exact iff_of_false (by simp) hne

/-- A binding names the members that can be rendered, in order and as often as they are listed, and
is missing if there are none. Two members never become one subject unless a name has a slash. -/
theorem bindings_name_renderable :
    (∀ member, IsRenderable member ↔ ∃ subject, memberSubject member = .ok subject) ∧
    (∀ member domain name, IsPrincipal member domain name →
      memberSubject member = .ok (domain ++ "/sa/" ++ name)) ∧
    Set.InjOn memberSubject
      {member | ∃ domain name, IsPrincipal member domain name ∧ '/' ∉ name.toList} ∧
    ∀ ns name members,
      (binding? ns name members = none ↔ ∀ member ∈ members, ¬ IsRenderable member) ∧
      ((∃ member ∈ members, IsRenderable member) →
        ∃ subjects, List.Forall₂ Renders (members.filter IsRenderable) subjects ∧
          binding? ns name members =
            some (.inNamespace ns name { subjects, roleRef := ⟨"ServiceRole", name⟩ })) ∧
      binding? ns name members = binding? ns name (members.filter IsRenderable) := by
  refine ⟨fun _ => isRenderable_iff, fun _ _ _ h => h.memberSubject_eq, ?_,
    fun ns name members => ⟨binding?_eq_none_iff, fun hsome => ?_, ?_⟩⟩
  · intro member hmember member' hmember' heq
    obtain ⟨domain, name, h, hslash⟩ := hmember
    obtain ⟨domain', name', h', hslash'⟩ := hmember'
    rw [h.memberSubject_eq, h'.memberSubject_eq, Except.ok.injEq] at heq
    obtain ⟨rfl, rfl⟩ := subject_inj hslash hslash' heq
    rw [h.cut, h'.cut]
  · obtain ⟨member, hmember, hrenderable⟩ := hsome
    have hne : subjects members ≠ [] := fun hnil =>
      subjects_eq_nil_iff.1 hnil member hmember hrenderable
    exact ⟨subjects members, renders_subjects members, binding?_eq_some.2 ⟨hne, rfl⟩⟩
  · unfold binding?
    rw [subjects_filter]

theorem bindings_name_renderable_repeated :
    memberSubject "shop.web" ≠ memberSubject "shop.web.db" ∧
    ∃ subjects, List.Forall₂ Renders ["user.ann", "user.ann"] subjects ∧
      binding? "shop" "reader" ["nodot", "user.ann", ".ann", "user.", "user.ann"] =
        some (.inNamespace "shop" "reader" { subjects, roleRef := ⟨"ServiceRole", "reader"⟩ }) := by
  obtain ⟨_, _, hinj, hbinding⟩ := bindings_name_renderable
  have hann : IsPrincipal "user.ann" "user" "ann" :=
    ⟨by decide, by decide, by decide, by decide⟩
  have hweb : IsPrincipal "shop.web" "shop" "web" :=
    ⟨by decide, by decide, by decide, by decide⟩
  have hdb : IsPrincipal "shop.web.db" "shop.web" "db" :=
    ⟨by decide, by decide, by decide, by decide⟩
  refine ⟨fun heq => ?_, ?_⟩
  · have hsame := hinj ⟨"shop", "web", hweb, by decide⟩ ⟨"shop.web", "db", hdb, by decide⟩ heq
    exact absurd hsame (by decide)
  · obtain ⟨_, hsome, _⟩ :=
      hbinding "shop" "reader" ["nodot", "user.ann", ".ann", "user.", "user.ann"]
    exact hsome ⟨"user.ann", by simp, "user", "ann", hann⟩

/-- A slash in a name can make one subject of two members. -/
example : memberSubject "shop.web/sa/db" = memberSubject "shop/sa/web.db" := by decide

end Grant

end MeshPolicy
