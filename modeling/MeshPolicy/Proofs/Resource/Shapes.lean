import MeshPolicy.Proofs.Json.Shape
import MeshPolicy.Resource.Enforcement
import MeshPolicy.Resource.RoleBinding
import MeshPolicy.Resource.ServiceRole
import MeshPolicy.Resource.SignedDomain

/-! # The shapes of resources

Which values are read as the specification of a resource, or as a part of one. Every type has a
shape, in which lists and records without a signature may be left out, and names may not.

* `shape` and `reads_decode` for each type: its shape, and that its reader goes by it.
* `decode_recognizes`: all specifications and all parts of them.
-/

namespace MeshPolicy
set_option autoImplicit false

open Json

/-! ## Access rules -/

def AccessRule.shape : Shape :=
  .record [("services", .defaulted, .list .text), ("paths", .defaulted, .list .text),
    ("methods", .defaulted, .list .text)]

theorem AccessRule.reads_decode : Reads shape (decode : Json → Option AccessRule) := by
  have htexts := Reads.text.list
  refine .record (by decide) ?_
  refine .cons (.defaulted htexts []) fun services => ?_
  refine .cons (.defaulted htexts []) fun paths => ?_
  exact .cons (.defaulted htexts []) fun methods => .nil _

def ServiceRole.shape : Shape := .record [("rules", .defaulted, .list AccessRule.shape)]

theorem ServiceRole.reads_decode : Reads shape (decode : Json → Option ServiceRole) := by
  refine .record (by decide) ?_
  exact .cons (.defaulted AccessRule.reads_decode.list []) fun rules => .nil _

/-! ## Bindings -/

def Subject.shape : Shape := .record [("user", .optional, .text), ("group", .optional, .text)]

theorem Subject.reads_decode : Reads shape (decode : Json → Option Subject) := by
  refine .record (by decide) ?_
  refine .cons (.optional .text) fun user => ?_
  exact .cons (.optional .text) fun group => .nil _

def RoleRef.shape : Shape := .record [("kind", .required, .text), ("name", .required, .text)]

theorem RoleRef.reads_decode : Reads shape (decode : Json → Option RoleRef) := by
  refine .record (by decide) ?_
  refine .cons (.required .text) fun kind => ?_
  exact .cons (.required .text) fun name => .nil _

def RoleBinding.shape : Shape :=
  .record [("subjects", .defaulted, .list Subject.shape), ("roleRef", .required, RoleRef.shape)]

theorem RoleBinding.reads_decode : Reads shape (decode : Json → Option RoleBinding) := by
  refine .record (by decide) ?_
  refine .cons (.defaulted Subject.reads_decode.list []) fun subjects => ?_
  exact .cons (.required RoleRef.reads_decode) fun roleRef => .nil _

/-! ## Configs -/

def Mode.shape : Shape := .choice ["OFF", "ON", "ON_WITH_INCLUSION", "ON_WITH_EXCLUSION"]

theorem Mode.decode_object_eq_none {members : Members} (h : ∀ name, members ≠ [(name, null)]) :
    (decode (object members) : Option Mode) = none := by
  simp only [decode]
  split
  next heq => cases heq
  next name heq => exact absurd (Json.object.inj heq) (h name)
  next => rfl

theorem Mode.reads_decode : Reads shape (decode : Json → Option Mode) where
  isSome_iff value hplain := by
    have hclear : Mode.shape.Clear value := Shape.clear_of_not_record fun _ _ hexpects => by
      cases hexpects
    rw [and_iff_left hclear]
    cases value with
    | string name =>
      have hread : (decode (string name) : Option Mode).isSome = true ↔
          ∃ mode ∈ [Mode.off, .on, .onWithInclusion, .onWithExclusion], (mode.name == name) = true :=
        List.find?_isSome
      simp [hread, shape, Shape.Accepts, Mode.name, @eq_comm String name]
    | object members => exact absurd (.whole _ _) (hplain.2 _ members)
    | _ => simp [decode, shape, Shape.Accepts]
  edit value value' hedit := by
    cases hedit with
    | @reorder _ members members' hperm =>
      by_cases hsingle : ∃ name, members = [(name, null)]
      · obtain ⟨name, rfl⟩ := hsingle
        rw [List.singleton_perm.1 hperm]
      · have hmany (name : String) : members ≠ [(name, null)] := fun h => hsingle ⟨name, h⟩
        have hmany' (name : String) : members' ≠ [(name, null)] := fun h =>
          hmany name (List.perm_singleton.1 (h ▸ hperm))
        rw [Mode.decode_object_eq_none hmany, Mode.decode_object_eq_none hmany']
    | undeclared hshape => exact absurd rfl (hshape _)
    | @member _ own value value' before after hedit =>
      have hother {x : Json} (hx : x ≠ null) (name : String) :
          before ++ (own, x) :: after ≠ [(name, null)] := by
        intro heq
        cases before <;> simp_all
      rw [Mode.decode_object_eq_none (hother hedit.ne_null.1),
        Mode.decode_object_eq_none (hother hedit.ne_null.2)]
    | item => rfl

def Target.shape : Shape :=
  .record [("services", .defaulted, .list .text), ("namespaces", .defaulted, .list .text)]

theorem Target.reads_decode : Reads shape (decode : Json → Option Target) := by
  refine .record (by decide) ?_
  refine .cons (.defaulted Reads.text.list []) fun services => ?_
  exact .cons (.defaulted Reads.text.list []) fun namespaces => .nil _

def Enforcement.shape : Shape :=
  .record [("mode", .defaulted, Mode.shape), ("inclusion", .optional, Target.shape),
    ("exclusion", .optional, Target.shape)]

theorem Enforcement.reads_decode : Reads shape (decode : Json → Option Enforcement) := by
  refine .record (by decide) ?_
  refine .cons (.defaulted Mode.reads_decode .off) fun mode => ?_
  refine .cons (.optional Target.reads_decode) fun inclusion => ?_
  exact .cons (.optional Target.reads_decode) fun exclusion => .nil _

/-! ## Signed domains -/

namespace Signed

def Member.shape : Shape := .record [("memberName", .required, .text)]

theorem Member.reads_decode : Reads shape (decode : Json → Option Member) := by
  refine .record (by decide) ?_
  exact .cons (.required .text) fun name => .nil _

def Role.shape : Shape :=
  .record [("name", .required, .text), ("members", .defaulted, .list .text),
    ("roleMembers", .defaulted, .list Member.shape)]

theorem Role.reads_decode : Reads shape (decode : Json → Option Role) := by
  refine .record (by decide) ?_
  refine .cons (.required .text) fun name => ?_
  refine .cons (.defaulted Reads.text.list []) fun members => ?_
  exact .cons (.defaulted Member.reads_decode.list []) fun roleMembers => .nil _

def Assertion.shape : Shape :=
  .record [("role", .required, .text), ("resource", .required, .text), ("action", .required, .text),
    ("effect", .optional, .text)]

theorem Assertion.reads_decode : Reads shape (decode : Json → Option Assertion) := by
  refine .record (by decide) ?_
  refine .cons (.required .text) fun role => ?_
  refine .cons (.required .text) fun resource => ?_
  refine .cons (.required .text) fun action => ?_
  exact .cons (.optional .text) fun effect => .nil _

def Policy.shape : Shape :=
  .record [("name", .required, .text), ("assertions", .defaulted, .list Assertion.shape)]

theorem Policy.reads_decode : Reads shape (decode : Json → Option Policy) := by
  refine .record (by decide) ?_
  refine .cons (.required .text) fun name => ?_
  exact .cons (.defaulted Assertion.reads_decode.list []) fun assertions => .nil _

def PolicyList.shape : Shape :=
  .record [("domain", .defaulted, .text), ("policies", .defaulted, .list Policy.shape)]

theorem PolicyList.reads_decode : Reads shape (decode : Json → Option PolicyList) := by
  refine .record (by decide) ?_
  refine .cons (.defaulted .text "") fun domain => ?_
  exact .cons (.defaulted Policy.reads_decode.list []) fun policies => .nil _

def Policies.shape : Shape :=
  .record [("contents", .defaulted, PolicyList.shape), ("signature", .optional, .text),
    ("keyId", .optional, .text)]

theorem Policies.reads_decode : Reads shape (decode : Json → Option Policies) := by
  refine .record (by decide) ?_
  refine .cons (.defaulted PolicyList.reads_decode {}) fun contents => ?_
  refine .cons (.optional .text) fun signature => ?_
  exact .cons (.optional .text) fun keyId => .nil _

def Content.shape : Shape :=
  .record [("name", .required, .text), ("roles", .defaulted, .list Role.shape),
    ("policies", .optional, Policies.shape)]

theorem Content.reads_decode : Reads shape (decode : Json → Option Content) := by
  refine .record (by decide) ?_
  refine .cons (.required .text) fun name => ?_
  refine .cons (.defaulted Role.reads_decode.list []) fun roles => ?_
  exact .cons (.optional Policies.reads_decode) fun policies => .nil _

end Signed

def SignedDomain.shape : Shape :=
  .record [("domain", .defaulted, Signed.Content.shape), ("signature", .optional, .text),
    ("keyId", .optional, .text)]

theorem SignedDomain.reads_decode : Reads shape (decode : Json → Option SignedDomain) := by
  refine .record (by decide) ?_
  refine .cons (.defaulted Signed.Content.reads_decode { name := "" }) fun domain => ?_
  refine .cons (.optional .text) fun signature => ?_
  exact .cons (.optional .text) fun keyId => .nil _

/-! ## All of them -/

/-- The readers of all specifications and of all parts of them take the values of their shapes and
nothing else, whatever is not declared and in whichever order members are listed. -/
theorem decode_recognizes :
    (Recognizes ServiceRole.shape (decode : Json → Option ServiceRole) ∧
      Recognizes AccessRule.shape (decode : Json → Option AccessRule)) ∧
    (Recognizes RoleBinding.shape (decode : Json → Option RoleBinding) ∧
      Recognizes Subject.shape (decode : Json → Option Subject) ∧
      Recognizes RoleRef.shape (decode : Json → Option RoleRef)) ∧
    (Recognizes Enforcement.shape (decode : Json → Option Enforcement) ∧
      Recognizes Mode.shape (decode : Json → Option Mode) ∧
      Recognizes Target.shape (decode : Json → Option Target)) ∧
    Recognizes SignedDomain.shape (decode : Json → Option SignedDomain) ∧
    Recognizes Signed.Content.shape (decode : Json → Option Signed.Content) ∧
    Recognizes Signed.Role.shape (decode : Json → Option Signed.Role) ∧
    Recognizes Signed.Member.shape (decode : Json → Option Signed.Member) ∧
    Recognizes Signed.Policies.shape (decode : Json → Option Signed.Policies) ∧
    Recognizes Signed.PolicyList.shape (decode : Json → Option Signed.PolicyList) ∧
    Recognizes Signed.Policy.shape (decode : Json → Option Signed.Policy) ∧
    Recognizes Signed.Assertion.shape (decode : Json → Option Signed.Assertion) := by
  refine ⟨⟨?_, ?_⟩, ⟨?_, ?_, ?_⟩, ⟨?_, ?_, ?_⟩, ?_, ?_, ?_, ?_, ?_, ?_, ?_, ?_⟩
  · exact ServiceRole.reads_decode.recognizes
  · exact AccessRule.reads_decode.recognizes
  · exact RoleBinding.reads_decode.recognizes
  · exact Subject.reads_decode.recognizes
  · exact RoleRef.reads_decode.recognizes
  · exact Enforcement.reads_decode.recognizes
  · exact Mode.reads_decode.recognizes
  · exact Target.reads_decode.recognizes
  · exact SignedDomain.reads_decode.recognizes
  · exact Signed.Content.reads_decode.recognizes
  · exact Signed.Role.reads_decode.recognizes
  · exact Signed.Member.reads_decode.recognizes
  · exact Signed.Policies.reads_decode.recognizes
  · exact Signed.PolicyList.reads_decode.recognizes
  · exact Signed.Policy.reads_decode.recognizes
  · exact Signed.Assertion.reads_decode.recognizes

-- The policies of a domain may be `null`, its roles may not.
example :
    (decode (object [("name", string "shop"), ("policies", null)]) : Option Signed.Content) =
        some { name := "shop" } ∧
      (decode (object [("name", string "shop"), ("roles", null)]) : Option Signed.Content) = none := by
  decide

end MeshPolicy
