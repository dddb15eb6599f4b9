import Mathlib.Data.List.Forall2
import Mathlib.Data.List.TakeWhile
import MeshPolicy.Text.Blank

/-! # Words in any case, between blanks

* `Spells`: a text is a word of small letters, some of them written as capitals.
  `sameIgnoringCase_iff_spells`: that is what a comparison without regard to case asks for.
* `IsPadded`: a text is another one between blanks. `spells_trim_iff`: when a text is a word once the
  blanks at its ends are gone.
-/

namespace MeshPolicy.Text
set_option autoImplicit false

/-! ## Words in any case -/

/-- The letters `a` to `z`. -/
def IsSmall (c : Char) : Prop := 'a' ≤ c ∧ c ≤ 'z'

/-- The text is the word, letter by letter, each of them as it is or as a capital. -/
def Spells (text word : String) : Prop :=
  List.Forall₂ (fun c letter => c = letter ∨ c = letter.toUpper) text.toList word.toList

theorem toNat_toLower (c : Char) :
    c.toLower.toNat = if 65 ≤ c.toNat ∧ c.toNat ≤ 90 then c.toNat + 32 else c.toNat := by
  have hrange : c.val ≥ 'A'.val ∧ c.val ≤ 'Z'.val ↔ 65 ≤ c.toNat ∧ c.toNat ≤ 90 := by
    rw [ge_iff_le, UInt32.le_iff_toNat_le, UInt32.le_iff_toNat_le]
    rfl
  unfold Char.toLower
  split
  next h =>
    have hbound := hrange.1 h
    have hval : c.val.toNat = c.toNat := rfl
    have hshift : ('a'.val - 'A'.val).toNat = 32 := rfl
    rw [if_pos hbound]
    show (c.val + ('a'.val - 'A'.val)).toNat = c.toNat + 32
    rw [UInt32.toNat_add, hshift]
    omega
  next h => rw [if_neg (mt hrange.2 h)]

theorem toNat_toUpper (c : Char) :
    c.toUpper.toNat = if 97 ≤ c.toNat ∧ c.toNat ≤ 122 then c.toNat - 32 else c.toNat := by
  have hrange : 'a'.val ≤ c.val ∧ c.val ≤ 'z'.val ↔ 97 ≤ c.toNat ∧ c.toNat ≤ 122 := by
    rw [UInt32.le_iff_toNat_le, UInt32.le_iff_toNat_le]
    rfl
  unfold Char.toUpper
  split
  next h =>
    have hbound := hrange.1 h
    have hval : c.val.toNat = c.toNat := rfl
    -- Adding the difference of the two letters wraps around, which takes 32 away.
    have hshift : ('A'.val - 'a'.val).toNat = UInt32.size - 32 := rfl
    rw [if_pos hbound]
    show (c.val + ('A'.val - 'a'.val)).toNat = c.toNat - 32
    rw [UInt32.toNat_add, hshift, UInt32.size]
    omega
  next h => rw [if_neg (mt hrange.2 h)]

theorem toLower_eq_toLower_iff {c letter : Char} (h : IsSmall letter) :
    c.toLower = letter.toLower ↔ c = letter ∨ c = letter.toUpper := by
  have hletter : 97 ≤ letter.toNat ∧ letter.toNat ≤ 122 := h
  simp only [← Char.toNat_inj, toNat_toLower, toNat_toUpper, if_pos hletter]
  split <;> split <;> omega

theorem forall₂_spells_iff {cs word : List Char} (h : ∀ letter ∈ word, IsSmall letter) :
    List.Forall₂ (fun c letter => c = letter ∨ c = letter.toUpper) cs word ↔
      cs.map Char.toLower = word.map Char.toLower := by
  induction word generalizing cs with
  | nil => simp
  | cons letter word ih =>
    obtain ⟨hletter, hword⟩ := List.forall_mem_cons.1 h
    cases cs with
    | nil => simp
    | cons c cs => simp [ih hword, toLower_eq_toLower_iff hletter]

/-- A comparison with a word of small letters asks how the text is spelled. -/
theorem sameIgnoringCase_iff_spells {text word : String} (h : ∀ letter ∈ word.toList, IsSmall letter) :
    sameIgnoringCase text word = true ↔ Spells text word := by
  rw [sameIgnoringCase, beq_iff_eq, Spells, forall₂_spells_iff h]

/-! ## Blanks -/

/-- The text is the word, with nothing but blanks in front of it and behind it. -/
def IsPadded (text word : String) : Prop :=
  ∃ front back : String, text = front ++ word ++ back ∧ (∀ c ∈ front.toList, isBlank c = true) ∧
    ∀ c ∈ back.toList, isBlank c = true

theorem isBlank_eq_false_of_isSmall {c letter : Char} (h : IsSmall letter)
    (hc : c = letter ∨ c = letter.toUpper) : isBlank c = false := by
  have hletter : 97 ≤ letter.toNat ∧ letter.toNat ≤ 122 := h
  have hrange : 65 ≤ c.toNat ∧ c.toNat ≤ 122 := by
    simp only [← Char.toNat_inj, toNat_toUpper, if_pos hletter] at hc
    omega
  simp only [isBlank, blankRanges, List.any_cons, List.any_nil, Bool.or_false, Bool.or_eq_false_iff,
    Bool.and_eq_false_iff, decide_eq_false_iff_not]
  omega

theorem isBlank_eq_false_of_spells {cs word : List Char} (h : ∀ letter ∈ word, IsSmall letter)
    (hspells : List.Forall₂ (fun c letter => c = letter ∨ c = letter.toUpper) cs word) :
    ∀ c ∈ cs, isBlank c = false := by
  induction hspells with
  | nil => simp
  | cons hc _ ih =>
    obtain ⟨hletter, hword⟩ := List.forall_mem_cons.1 h
    exact List.forall_mem_cons.2 ⟨isBlank_eq_false_of_isSmall hletter hc, ih hword⟩

theorem trimFront_append {front : List Char} (h : ∀ c ∈ front, isBlank c = true) (rest : List Char) :
    trimFront (front ++ rest) = trimFront rest := by
  have hnone : front.dropWhile isBlank = [] := by simpa [List.dropWhile_eq_nil_iff] using h
  rw [trimFront, List.dropWhile_append, hnone]
  rfl

theorem trimFront_of_no_blank {cs : List Char} (h : ∀ c ∈ cs, isBlank c = false) (rest : List Char)
    (hne : cs ≠ []) : trimFront (cs ++ rest) = cs ++ rest := by
  cases cs with
  | nil => exact absurd rfl hne
  | cons c cs =>
    rw [trimFront, List.cons_append, List.dropWhile_cons_of_neg]
    simp [h c List.mem_cons_self]

/-- What is trimmed off a text is blank. -/
theorem isPadded_trim (text : String) : IsPadded text (trim text) := by
  have hcut (cs : List Char) :
      ∃ front, cs = front ++ trimFront cs ∧ ∀ c ∈ front, isBlank c = true :=
    ⟨cs.takeWhile isBlank, List.takeWhile_append_dropWhile.symm, fun _ hc =>
      List.mem_takeWhile_imp hc⟩
  obtain ⟨front, hfront, hblank⟩ := hcut text.toList
  obtain ⟨back, hback, hblank'⟩ := hcut (trimFront text.toList).reverse
  refine ⟨.ofList front, .ofList back.reverse, String.toList_injective ?_, ?_, ?_⟩
  · have hrest : trimFront text.toList =
        (trimFront (trimFront text.toList).reverse).reverse ++ back.reverse := by
      rw [← List.reverse_append, ← hback, List.reverse_reverse]
    simp only [trim, String.toList_append, String.toList_ofList, List.append_assoc]
    rw [← hrest]
    exact hfront
  · simpa using hblank
  · simpa using hblank'

/-- A word without blanks is all that is left of a text in which it stands between blanks. -/
theorem IsPadded.trim_eq {text word : String} (h : IsPadded text word)
    (hword : ∀ c ∈ word.toList, isBlank c = false) : trim text = word := by
  obtain ⟨front, back, rfl, hfront, hback⟩ := h
  have hback' : ∀ c ∈ back.toList.reverse, isBlank c = true := by simpa using hback
  apply String.toList_injective
  simp only [trim, String.toList_append, String.toList_ofList, List.append_assoc]
  rw [trimFront_append hfront]
  by_cases hne : word.toList = []
  · have hnothing := trimFront_append hback []
    rw [List.append_nil] at hnothing
    rw [hne, List.nil_append, hnothing]
    rfl
  · have hreverse : ∀ c ∈ word.toList.reverse, isBlank c = false := by simpa using hword
    have hword' := trimFront_of_no_blank hreverse [] (by simpa using hne)
    rw [List.append_nil] at hword'
    rw [trimFront_of_no_blank hword _ hne, List.reverse_append, trimFront_append hback', hword',
      List.reverse_reverse]

/-- A text spells a word once it is trimmed if the word stands in it, spelled in some way, between
blanks. -/
theorem spells_trim_iff {text word : String} (h : ∀ letter ∈ word.toList, IsSmall letter) :
    Spells (trim text) word ↔ ∃ core, IsPadded text core ∧ Spells core word := by
  constructor
  · intro hspells
    exact ⟨trim text, isPadded_trim text, hspells⟩
  · rintro ⟨core, hpadded, hspells⟩
    rw [hpadded.trim_eq (isBlank_eq_false_of_spells h hspells)]
    exact hspells

end MeshPolicy.Text
