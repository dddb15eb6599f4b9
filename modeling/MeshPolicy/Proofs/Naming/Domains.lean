import MeshPolicy.Naming
import Mathlib.Data.List.Chain
import Mathlib.Data.Set.Function

/-! # Namespaces and their domains

A namespace without a dot can be read back from its domain, so that no two of them share one. The
domains of such namespaces are those in which no dot is followed at once by a dot or a dash.

* `namespaceChars_domainChars`, `namespaceOfDomain_domainOfNamespace`: namespaces are read back.
* `domainOfNamespace_inj`: distinct namespaces without dots have distinct domains.
* `DotsApart`, `dotsApart_domainChars`: the domains of namespaces without dots.
* `domainChars_namespaceChars`, `domainOfNamespace_namespaceOfDomain`: domains are read back.
* `namespaces_and_domains_biject`: both directions, with the exact names that are read back.
-/

namespace MeshPolicy.Naming
set_option autoImplicit false

theorem namespaceChars_cons (c : Char) (cs : List Char) :
    namespaceChars (c :: cs) =
      (if c = '-' then ['-', '-'] else if c = '.' then ['-'] else [c]) ++ namespaceChars cs := rfl

theorem namespaceChars_domainChars {cs : List Char} (h : '.' ∉ cs) :
    namespaceChars (domainChars cs) = cs := by
  fun_induction domainChars cs with
  | case1 => rfl
  | case2 rest ih =>
    have hrest := ih fun hdot => h (by simp [hdot])
    rw [namespaceChars_cons, hrest]
    rfl
  | case3 rest _ ih =>
    have hrest := ih fun hdot => h (by simp [hdot])
    rw [namespaceChars_cons, hrest]
    rfl
  | case4 c rest _ hdash ih =>
    have hrest := ih fun hdot => h (by simp [hdot])
    have hc : c ≠ '.' := fun heq => h (by simp [heq])
    rw [namespaceChars_cons, hrest, if_neg hdash, if_neg hc]
    rfl

theorem namespaceOfDomain_domainOfNamespace {ns : String} (h : '.' ∉ ns.toList) :
    namespaceOfDomain (domainOfNamespace ns) = ns := by
  rw [namespaceOfDomain, domainOfNamespace, String.toList_ofList, namespaceChars_domainChars h,
    String.ofList_toList]

theorem domainOfNamespace_inj {ns ns' : String} (h : '.' ∉ ns.toList) (h' : '.' ∉ ns'.toList)
    (heq : domainOfNamespace ns = domainOfNamespace ns') : ns = ns' := by
  rw [← namespaceOfDomain_domainOfNamespace h, heq, namespaceOfDomain_domainOfNamespace h']

/-! ## The domains of namespaces without dots -/

/-- No dot is followed at once by another dot or by a dash. -/
def DotsApart (cs : List Char) : Prop :=
  cs.IsChain fun c next => c = '.' → next ≠ '.' ∧ next ≠ '-'

instance (cs : List Char) : Decidable (DotsApart cs) := inferInstanceAs (Decidable (cs.IsChain _))

theorem domainChars_cons {c : Char} (h : c ≠ '-') (rest : List Char) :
    domainChars (c :: rest) = c :: domainChars rest := by
  rw [domainChars]
  · exact fun _ hdash _ => h hdash
  · exact h

/-- A dash that no other dash follows at once is read as a dot. -/
theorem domainChars_dash {rest : List Char} (h : '-' ∉ rest.head?) :
    domainChars ('-' :: rest) = '.' :: domainChars rest := by
  rw [domainChars]
  rintro tail rfl
  exact h rfl

theorem head?_domainChars {cs : List Char} (h : '-' ∉ cs.head?) :
    (domainChars cs).head? = cs.head? := by
  cases cs with
  | nil => rfl
  | cons c rest =>
    have hc : c ≠ '-' := by simpa [eq_comm] using h
    rw [domainChars_cons hc]
    rfl

theorem dotsApart_domainChars {cs : List Char} (h : '.' ∉ cs) : DotsApart (domainChars cs) := by
  fun_induction domainChars cs with
  | case1 => exact .nil
  | case2 rest ih =>
    have hrest : '.' ∉ rest := fun hdot => h (by simp [hdot])
    exact List.isChain_cons.2 ⟨fun next _ hdot => absurd hdot (by decide), ih hrest⟩
  | case3 rest hdash ih =>
    have hrest : '.' ∉ rest := fun hdot => h (by simp [hdot])
    have hhead : '-' ∉ rest.head? := by
      cases rest with
      | nil => simp
      | cons c tail =>
        intro hc
        exact hdash tail (by rw [Option.some.inj hc])
    refine List.isChain_cons.2 ⟨fun next hnext _ => ?_, ih hrest⟩
    rw [head?_domainChars hhead] at hnext
    constructor
    · rintro rfl
      exact hrest (List.mem_of_mem_head? hnext)
    · rintro rfl
      exact hhead hnext
  | case4 c rest _ _ ih =>
    have hrest : '.' ∉ rest := fun hdot => h (by simp [hdot])
    have hc : c ≠ '.' := fun heq => h (by simp [heq])
    exact List.isChain_cons.2 ⟨fun next _ hdot => absurd hdot hc, ih hrest⟩

theorem dot_notMem_namespaceChars (cs : List Char) : '.' ∉ namespaceChars cs := by
  induction cs with
  | nil => exact List.not_mem_nil
  | cons c rest ih =>
    rw [namespaceChars_cons, List.mem_append, not_or]
    refine ⟨?_, ih⟩
    by_cases hdash : c = '-'
    · simp [hdash]
    · by_cases hdot : c = '.'
      · simp [hdot]
      · simpa [hdash, hdot] using Ne.symm hdot

theorem head?_namespaceChars {cs : List Char} (hdot : '.' ∉ cs.head?) :
    (namespaceChars cs).head? = cs.head? := by
  cases cs with
  | nil => rfl
  | cons c rest =>
    have hc : c ≠ '.' := by simpa [eq_comm] using hdot
    rw [namespaceChars_cons, if_neg hc]
    by_cases hdash : c = '-'
    · rw [if_pos hdash, hdash]
      rfl
    · rw [if_neg hdash]
      rfl

theorem domainChars_namespaceChars {cs : List Char} (h : DotsApart cs) :
    domainChars (namespaceChars cs) = cs := by
  induction cs with
  | nil => rfl
  | cons c rest ih =>
    obtain ⟨hnext, hrest⟩ := List.isChain_cons.1 h
    rw [namespaceChars_cons]
    by_cases hdash : c = '-'
    · rw [if_pos hdash, hdash, List.cons_append, List.singleton_append, domainChars, ih hrest]
    · rw [if_neg hdash]
      by_cases hdot : c = '.'
      · -- The next character is neither a dot nor a dash, and so the dash stands alone.
        have hhead : '.' ∉ rest.head? := fun hmem => (hnext '.' hmem hdot).1 rfl
        have halone : '-' ∉ (namespaceChars rest).head? := by
          rw [head?_namespaceChars hhead]
          exact fun hmem => (hnext '-' hmem hdot).2 rfl
        rw [if_pos hdot, List.singleton_append, domainChars_dash halone, ih hrest, hdot]
      · rw [if_neg hdot, List.singleton_append, domainChars_cons hdash, ih hrest]

/-! ## Reading back in both directions -/

/-- Namespaces that can be read back from their domain. -/
def namespacesWithoutDots : Set String := {ns | '.' ∉ ns.toList}

/-- Domains that can be read back from their namespace. -/
def domainsWithDotsApart : Set String := {domain | DotsApart domain.toList}

theorem domainOfNamespace_namespaceOfDomain {domain : String} (h : DotsApart domain.toList) :
    domainOfNamespace (namespaceOfDomain domain) = domain := by
  rw [domainOfNamespace, namespaceOfDomain, String.toList_ofList, domainChars_namespaceChars h,
    String.ofList_toList]

theorem dot_notMem_namespaceOfDomain (domain : String) :
    '.' ∉ (namespaceOfDomain domain).toList := by
  intro hdot
  rw [namespaceOfDomain, String.toList_ofList] at hdot
  exact dot_notMem_namespaceChars _ hdot

theorem dotsApart_domainOfNamespace {ns : String} (h : '.' ∉ ns.toList) :
    DotsApart (domainOfNamespace ns).toList := by
  rw [domainOfNamespace, String.toList_ofList]
  exact dotsApart_domainChars h

/-- Namespaces without dots and domains whose dots stand apart are the same names, written in two
ways, and no other namespace and no other domain is read back. -/
theorem namespaces_and_domains_biject :
    Set.InvOn namespaceOfDomain domainOfNamespace namespacesWithoutDots domainsWithDotsApart ∧
    Set.BijOn domainOfNamespace namespacesWithoutDots domainsWithDotsApart ∧
    Set.BijOn namespaceOfDomain domainsWithDotsApart namespacesWithoutDots ∧
    (∀ ns, namespaceOfDomain (domainOfNamespace ns) = ns ↔ '.' ∉ ns.toList) ∧
    (∀ domain, domainOfNamespace (namespaceOfDomain domain) = domain ↔ DotsApart domain.toList) ∧
    (∀ ns ns' : String, '.' ∉ ns.toList → '.' ∉ ns'.toList → ns ≠ ns' →
      domainOfNamespace ns ≠ domainOfNamespace ns') := by
  have hinv : Set.InvOn namespaceOfDomain domainOfNamespace namespacesWithoutDots
      domainsWithDotsApart :=
    ⟨fun _ hns => namespaceOfDomain_domainOfNamespace hns,
      fun _ hdomain => domainOfNamespace_namespaceOfDomain hdomain⟩
  have hto : Set.MapsTo domainOfNamespace namespacesWithoutDots domainsWithDotsApart :=
    fun _ hns => dotsApart_domainOfNamespace hns
  have hback : Set.MapsTo namespaceOfDomain domainsWithDotsApart namespacesWithoutDots :=
    fun domain _ => dot_notMem_namespaceOfDomain domain
  refine ⟨hinv, hinv.bijOn hto hback, hinv.symm.bijOn hback hto, fun ns => ?_, fun domain => ?_,
    fun ns ns' hns hns' hne heq => hne (domainOfNamespace_inj hns hns' heq)⟩
  · refine ⟨fun heq => ?_, fun hns => namespaceOfDomain_domainOfNamespace hns⟩
    rw [← heq]
    exact dot_notMem_namespaceOfDomain _
  · refine ⟨fun heq => ?_, fun hdomain => domainOfNamespace_namespaceOfDomain hdomain⟩
    rw [← heq]
    exact dotsApart_domainOfNamespace (dot_notMem_namespaceOfDomain domain)

/-- Runs of dashes tell namespaces apart; a dot in front of a dash is not read back. -/
theorem namespaces_and_domains_biject_dashes :
    domainOfNamespace "a---b" ≠ domainOfNamespace "a----b" ∧
    domainOfNamespace (namespaceOfDomain "a-.b") = "a-.b" ∧
    domainOfNamespace (namespaceOfDomain "a.-b") ≠ "a.-b" := by
  obtain ⟨_, _, _, _, hdomain, hdistinct⟩ := namespaces_and_domains_biject
  exact ⟨hdistinct "a---b" "a----b" (by decide) (by decide) (by decide),
    (hdomain "a-.b").2 (by decide), fun heq => absurd ((hdomain "a.-b").1 heq) (by decide)⟩

end MeshPolicy.Naming
