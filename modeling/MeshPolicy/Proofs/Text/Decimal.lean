import MeshPolicy.Text.Decimal

/-! # What is written in decimal is read again

* `readDigits?_eq_some_iff`: which texts are read, and as which numbers.
* `readDigits?_digits`: what is written is read as it was.
-/

namespace MeshPolicy.Text
set_option autoImplicit false

theorem digit?_of_isDigit {c : Char} (h : c.isDigit = true) :
    digit? c = some (c.toNat - '0'.toNat) := by
  have hrange : '0' ≤ c ∧ c ≤ '9' := by simpa [Char.isDigit, Char.le_def] using h
  rw [digit?, if_pos hrange]

theorem isDigit_of_digit? {c : Char} {d : Nat} (h : digit? c = some d) : c.isDigit = true := by
  unfold digit? at h
  split at h
  case isTrue hrange => simpa [Char.isDigit, Char.le_def] using hrange
  case isFalse => cases h

theorem readOn_of_isDigit {cs : List Char} (h : ∀ c ∈ cs, c.isDigit = true) (n : Nat) :
    readOn n cs = some (Nat.ofDigitChars 10 cs n) := by
  induction cs generalizing n with
  | nil => rfl
  | cons c rest ih =>
    have hrest : ∀ c ∈ rest, c.isDigit = true := fun c hc => h c (List.mem_cons_of_mem _ hc)
    rw [readOn, digit?_of_isDigit (h c List.mem_cons_self), Option.bind_some, ih hrest,
      Nat.ofDigitChars_cons]

theorem isDigit_of_readOn {cs : List Char} {n m : Nat} (h : readOn n cs = some m) :
    ∀ c ∈ cs, c.isDigit = true := by
  induction cs generalizing n with
  | nil => simp
  | cons c rest ih =>
    obtain ⟨d, hd, hrest⟩ := Option.bind_eq_some_iff.1 h
    exact List.forall_mem_cons.2 ⟨isDigit_of_digit? hd, ih hrest⟩

theorem readDigits?_eq_some_iff {cs : List Char} {n : Nat} :
    readDigits? cs = some n ↔
      cs ≠ [] ∧ (∀ c ∈ cs, c.isDigit = true) ∧ n = Nat.ofDigitChars 10 cs 0 := by
  cases cs with
  | nil => simp [readDigits?]
  | cons c rest =>
    constructor
    · intro h
      have hdigits := isDigit_of_readOn h
      have hread := (readOn_of_isDigit hdigits 0).symm.trans h
      exact ⟨List.cons_ne_nil _ _, hdigits, (Option.some.inj hread).symm⟩
    · rintro ⟨_, hdigits, rfl⟩
      exact readOn_of_isDigit hdigits 0

theorem readDigits?_digits (n : Nat) : readDigits? (digits n).toList = some n := by
  have hdigits : ∀ c ∈ Nat.toDigits 10 n, c.isDigit = true := fun c hc =>
    Nat.isDigit_of_mem_toDigits (by decide) (by decide) hc
  have hread := readOn_of_isDigit hdigits 0
  rw [Nat.ofDigitChars_ten_toDigits] at hread
  rw [digits, String.toList_ofList]
  cases hcs : Nat.toDigits 10 n with
  | nil => exact absurd hcs Nat.toDigits_ne_nil
  | cons c rest =>
    rw [hcs] at hread
    exact hread

theorem digits_inj {m n : Nat} (h : digits m = digits n) : m = n := by
  have hread := congrArg (fun text => readDigits? text.toList) h
  simpa only [readDigits?_digits, Option.some.injEq] using hread

end MeshPolicy.Text
