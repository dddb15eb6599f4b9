import MeshPolicy.Naming
import Mathlib.Data.List.Basic

/-! # The names of service roles and members

What the naming functions accept, said without them.

* `IsServiceRole`: a role is called `<domain>:role.service.role.<name>`, with a name that is not
  empty and does not end in a dot. `IsMalformed`: the name does end in one.
* `LastSegment`: what follows the last dot.
* `IsServiceRole.serviceAccount_eq_ok_iff`, `memberSubject_eq_ok_iff`: the account that a service
  role targets, and the subject of a member.
-/

namespace MeshPolicy.Naming
set_option autoImplicit false

open Text

/-! ## Roles of a domain -/

/-- The role has the full name of the service role `name` in the domain of a namespace. -/
structure IsServiceRole (ns role name : String) : Prop where
  fullName : role = domainOfNamespace ns ++ ":role.service.role." ++ name
  nonempty : name ≠ ""
  noDotAtEnd : ∀ rest, name ≠ rest ++ "."

/-- The role would be a service role if its name did not end in a dot. -/
def IsMalformed (ns role : String) : Prop :=
  ∃ rest, role = domainOfNamespace ns ++ ":role.service.role." ++ rest ++ "."

/-- `last` is what follows the last dot of the text, or the whole text if it has none. -/
def LastSegment (text last : String) : Prop :=
  '.' ∉ last.toList ∧ (text = last ∨ ∃ before, text = before ++ "." ++ last)

theorem dropStart?_eq_some_iff {start s rest : String} :
    dropStart? start s = some rest ↔ s = start ++ rest := by
  simp only [dropStart?, Option.map_eq_some_iff, List.isPrefixOf?_eq_some_iff_append_eq]
  constructor
  · intro h
    obtain ⟨chars, hchars, rfl⟩ := h
    apply String.toList_injective
    rw [← hchars, String.toList_append, String.toList_ofList]
  · rintro rfl
    exact ⟨rest.toList, String.toList_append.symm, String.ofList_toList⟩

theorem toList_dot : (".").toList = ['.'] := rfl

theorem getLast?_eq_dot_iff {text : String} :
    text.toList.getLast? = some '.' ↔ ∃ rest, text = rest ++ "." := by
  rw [List.getLast?_eq_some_iff]
  constructor
  · intro h'
    obtain ⟨start, h⟩ := h'
    refine ⟨.ofList start, String.toList_injective ?_⟩
    rw [h]
    simp [String.toList_append, toList_dot]
  · intro h'
    obtain ⟨rest, rfl⟩ := h'
    exact ⟨rest.toList, String.toList_append⟩

instance (ns role : String) : Decidable (IsMalformed ns role) :=
  decidable_of_iff (((dropStart? (domainOfNamespace ns ++ ":role.service.role.") role).any
      fun name => name.toList.getLast? == some '.') = true) <| by
    simp only [Option.any_eq_true, dropStart?_eq_some_iff, beq_iff_eq, getLast?_eq_dot_iff]
    constructor
    · intro h
      obtain ⟨name, rfl, rest, rfl⟩ := h
      exact ⟨rest, String.append_assoc.symm⟩
    · intro h
      obtain ⟨rest, rfl⟩ := h
      exact ⟨rest ++ ".", String.append_assoc, rest, rfl⟩

theorem IsServiceRole.name_unique {ns role name name' : String} (h : IsServiceRole ns role name)
    (h' : IsServiceRole ns role name') : name = name' := by
  have heq := h.fullName.symm.trans h'.fullName
  exact String.append_right_inj _ |>.1 heq

theorem IsServiceRole.not_isMalformed {ns role name : String} (h : IsServiceRole ns role name) :
    ¬ IsMalformed ns role := by
  intro h'
  obtain ⟨rest, hrest⟩ := h'
  have heq := h.fullName.symm.trans (hrest.trans String.append_assoc)
  exact h.noDotAtEnd rest ((String.append_right_inj _).1 heq)

theorem simpleRoleName?_eq_some_iff {domain role simple : String} :
    simpleRoleName? domain role = some simple ↔ role = domain ++ ":role." ++ simple := by
  simp only [simpleRoleName?, Option.bind_eq_some_iff, dropStart?_eq_some_iff]
  constructor
  · intro h
    obtain ⟨_, rfl, rfl⟩ := h
    rw [String.append_assoc]
  · rintro rfl
    exact ⟨_, String.append_assoc, rfl⟩

theorem serviceRoleName?_eq_some_iff {simple name : String} :
    serviceRoleName? simple = some name ↔ simple = "service.role." ++ name ∧ name ≠ "" := by
  simp [serviceRoleName?, Option.filter_eq_some_iff, dropStart?_eq_some_iff]

/-! ## Accounts and members -/

/-- The last cut of a text at a dot, in terms of texts. -/
theorem splitLast_dot_eq_some_iff {text : String} {before last : List Char} :
    splitLast '.' text.toList = some (before, last) ↔
      text = .ofList before ++ "." ++ .ofList last ∧ '.' ∉ last := by
  rw [splitLast_eq_some_iff, ← String.toList_inj]
  simp [String.toList_append, toList_dot]

theorem serviceAccount_eq_ok_iff {role account : String} :
    serviceAccount role = .ok account ↔
      account ≠ "" ∧ '.' ∉ account.toList ∧ ∃ before, role = before ++ "." ++ account := by
  constructor
  · intro h
    unfold serviceAccount at h
    split at h
    next before c cs hsplit =>
      cases h
      obtain ⟨hrole, hdot⟩ := splitLast_dot_eq_some_iff.1 hsplit
      exact ⟨by simp, by rwa [String.toList_ofList], _, hrole⟩
    next => cases h
  · intro h'
    obtain ⟨hne, hdot, before, hrole⟩ := h'
    have hsplit : splitLast '.' role.toList = some (before.toList, account.toList) :=
      splitLast_dot_eq_some_iff.2 ⟨by simpa using hrole, hdot⟩
    unfold serviceAccount
    rw [hsplit]
    cases haccount : account.toList with
    | nil => exact absurd (String.toList_eq_nil_iff.1 haccount) hne
    | cons c cs => simp [← haccount]

theorem serviceAccount_error {role : String} (h : ∀ account, serviceAccount role ≠ .ok account) :
    serviceAccount role = .error (.malformedRoleName role) := by
  unfold serviceAccount at h ⊢
  split
  next hsplit => exact absurd (by rw [hsplit]) (h _)
  next => rfl

theorem memberSubject_eq_ok_iff {member subject : String} :
    memberSubject member = .ok subject ↔
      ∃ domain name, member = domain ++ "." ++ name ∧ '.' ∉ name.toList ∧ domain ≠ "" ∧
        name ≠ "" ∧ subject = domain ++ "/sa/" ++ name := by
  constructor
  · intro h
    unfold memberSubject at h
    split at h
    next d ds n ns hsplit =>
      cases h
      obtain ⟨hmember, hdot⟩ := splitLast_dot_eq_some_iff.1 hsplit
      exact ⟨_, _, hmember, by rwa [String.toList_ofList], by simp, by simp, rfl⟩
    next => cases h
  · intro h'
    obtain ⟨domain, name, hmember, hdot, hdomain, hname, rfl⟩ := h'
    have hsplit : splitLast '.' member.toList = some (domain.toList, name.toList) :=
      splitLast_dot_eq_some_iff.2 ⟨by simpa using hmember, hdot⟩
    unfold memberSubject
    rw [hsplit]
    cases hd : domain.toList with
    | nil => exact absurd (String.toList_eq_nil_iff.1 hd) hdomain
    | cons d ds =>
      cases hn : name.toList with
      | nil => exact absurd (String.toList_eq_nil_iff.1 hn) hname
      | cons n ns => simp [← hd, ← hn]

/-! ## The account of a service role -/

theorem exists_lastSegment (text : String) : ∃ last, LastSegment text last := by
  cases hsplit : splitLast '.' text.toList with
  | none => exact ⟨text, splitLast_eq_none_iff.1 hsplit, .inl rfl⟩
  | some parts =>
    obtain ⟨htext, hdot⟩ := splitLast_dot_eq_some_iff.1 hsplit
    exact ⟨.ofList parts.2, by rwa [String.toList_ofList], .inr ⟨_, htext⟩⟩

theorem serviceAccount_of_lastSegment {name account : String} (h : LastSegment name account)
    (hne : account ≠ "") : serviceAccount ("service.role." ++ name) = .ok account := by
  refine serviceAccount_eq_ok_iff.2 ⟨hne, h.1, ?_⟩
  rcases h.2 with rfl | ⟨before, rfl⟩
  · exact ⟨"service.role", rfl⟩
  · exact ⟨"service.role." ++ before, by simp only [String.append_assoc]⟩

theorem IsServiceRole.account_ne {ns role name account : String} (h : IsServiceRole ns role name)
    (hlast : LastSegment name account) : account ≠ "" := by
  rintro rfl
  rcases hlast.2 with hname | ⟨before, hname⟩
  · exact h.nonempty hname
  · exact h.noDotAtEnd before (by simpa using hname)

theorem IsServiceRole.serviceAccount_eq_ok_iff {ns role name account : String}
    (h : IsServiceRole ns role name) :
    serviceAccount ("service.role." ++ name) = .ok account ↔ LastSegment name account := by
  constructor
  · intro hok
    obtain ⟨last, hlast⟩ := exists_lastSegment name
    have hsame := serviceAccount_of_lastSegment hlast (h.account_ne hlast)
    rw [hok] at hsame
    cases hsame
    exact hlast
  · exact fun hlast => serviceAccount_of_lastSegment hlast (h.account_ne hlast)

theorem serviceAccount_dot_at_end (start : String) :
    serviceAccount (start ++ ".") = .error (.malformedRoleName (start ++ ".")) := by
  refine serviceAccount_error fun account hok => ?_
  obtain ⟨hne, hdot, before, hcut⟩ := Naming.serviceAccount_eq_ok_iff.1 hok
  have hend := getLast?_eq_dot_iff.2 ⟨start, rfl⟩
  cases hget : account.toList.getLast? with
  | none => exact hne (String.toList_eq_nil_iff.1 (List.getLast?_eq_none_iff.1 hget))
  | some c =>
    rw [hcut, String.toList_append, List.getLast?_append, hget] at hend
    cases hend
    exact hdot (List.mem_of_getLast? hget)

end MeshPolicy.Naming
