import Mathlib.Data.UInt
import MeshPolicy.Backoff

/-! # Back-off in machine words

A machine holds a span as whole seconds and as the nanoseconds beyond them, each in a word of its own.
It works the delay out in these words, and any step may overflow. None does, and the delay is the one
that is meant.

* `Duration.Words`: a span in two words. `Duration.words`: a span as a machine holds it.
* `shift?`, `mul?`, `add?`: steps on words, none if the exact result does not fit.
* `Words.times?`: the multiple of a span; `times?_words`: it is the multiple that is meant.
* `RetryPolicy.backoffInWords?`: the delay after a failure, and none as soon as a step overflows;
  `backoffInWords?_eq`: none does.
-/

namespace MeshPolicy
set_option autoImplicit false

namespace Duration

/-! ## Spans in two words -/

structure Words where
  secs : UInt64
  nanos : UInt32
  nanos_lt : nanos.toNat < nanosPerSecond

namespace Words

/-- The nanoseconds of the span altogether. -/
def total (w : Words) : Nat := w.secs.toNat * nanosPerSecond + w.nanos.toNat

theorem ext_total {a b : Words} (h : a.total = b.total) : a = b := by
  obtain ⟨secs, nanos, hnanos⟩ := a
  obtain ⟨secs', nanos', hnanos'⟩ := b
  simp only [total, nanosPerSecond] at h hnanos hnanos'
  obtain rfl : secs = secs' := UInt64.toNat_inj.1 (by omega)
  obtain rfl : nanos = nanos' := UInt32.toNat_inj.1 (by omega)
  rfl

def longest : Words := ⟨.ofNat (UInt64.size - 1), .ofNat (nanosPerSecond - 1), by decide⟩

theorem total_longest : longest.total = maxNanos := by decide +kernel

/-- Whether the first span is not longer: its seconds decide, and with equal seconds its
nanoseconds. -/
def isAtMost (a b : Words) : Bool := a.secs < b.secs || a.secs = b.secs && a.nanos ≤ b.nanos

theorem isAtMost_iff {a b : Words} : a.isAtMost b = true ↔ a.total ≤ b.total := by
  have ha := a.nanos_lt
  have hb := b.nanos_lt
  simp only [isAtMost, Bool.or_eq_true, Bool.and_eq_true, decide_eq_true_eq, UInt64.lt_iff_toNat_lt,
    UInt32.le_iff_toNat_le, ← UInt64.toNat_inj, total, nanosPerSecond] at ha hb ⊢
  omega

def shorter (a b : Words) : Words := if a.isAtMost b then a else b

theorem total_shorter (a b : Words) : (a.shorter b).total = min a.total b.total := by
  unfold shorter
  by_cases h : a.isAtMost b = true
  · rw [if_pos h, Nat.min_eq_left (isAtMost_iff.1 h)]
  · have hle : ¬ a.total ≤ b.total := fun hle => h (isAtMost_iff.2 hle)
    rw [if_neg h, Nat.min_eq_right (by omega)]

end Words

def words (d : Duration) : Words where
  secs := .ofNat (d.nanos / nanosPerSecond)
  nanos := .ofNat (d.nanos % nanosPerSecond)
  nanos_lt := by
    have hlt : d.nanos % nanosPerSecond < nanosPerSecond := Nat.mod_lt _ (by decide)
    rw [UInt32.toNat_ofNat_of_lt' (Nat.lt_trans hlt (by decide))]
    exact hlt

theorem total_words (d : Duration) : d.words.total = d.nanos := by
  have hsecs : d.nanos / nanosPerSecond < UInt64.size := by
    have h := d.nanos_le
    simp only [maxNanos, nanosPerSecond, UInt64.size] at h ⊢
    omega
  have hnanos : d.nanos % nanosPerSecond < UInt32.size :=
    Nat.lt_trans (Nat.mod_lt _ (by decide)) (by decide : nanosPerSecond < UInt32.size)
  rw [Words.total, words, UInt64.toNat_ofNat_of_lt' hsecs, UInt32.toNat_ofNat_of_lt' hnanos]
  exact Nat.div_add_mod' _ _

/-! ## Steps on words -/

namespace Words

/-- A shift to the left; the word has 32 places. -/
def shift? (n amount : UInt32) : Option UInt32 := if amount < 32 then some (n <<< amount) else none

def mul? (a b : UInt64) : Option UInt64 :=
  if a.toNat * b.toNat < UInt64.size then some (a * b) else none

def add? (a b : UInt64) : Option UInt64 :=
  if a.toNat + b.toNat < UInt64.size then some (a + b) else none

theorem shift?_one {amount : UInt32} (h : amount.toNat ≤ 16) :
    ∃ factor, shift? 1 amount = some factor ∧ factor.toNat = 1 <<< amount.toNat := by
  have hplace : amount.toNat < 32 := Nat.lt_of_le_of_lt h (by decide)
  have hfits : 1 <<< amount.toNat < UInt32.size := by
    rw [Nat.one_shiftLeft]
    exact Nat.lt_of_le_of_lt (Nat.pow_le_pow_right (by decide) h) (by decide)
  refine ⟨1 <<< amount, if_pos (UInt32.lt_iff_toNat_lt.2 hplace), ?_⟩
  rw [UInt32.toNat_shiftLeft, Nat.mod_eq_of_lt hplace]
  exact Nat.mod_eq_of_lt hfits

theorem mul?_eq_some {a b : UInt64} (h : a.toNat * b.toNat < UInt64.size) :
    ∃ c, mul? a b = some c ∧ c.toNat = a.toNat * b.toNat :=
  ⟨a * b, if_pos h, by rw [UInt64.toNat_mul]; exact Nat.mod_eq_of_lt h⟩

theorem mul?_eq_none {a b : UInt64} (h : UInt64.size ≤ a.toNat * b.toNat) : mul? a b = none :=
  if_neg (Nat.not_lt.2 h)

theorem add?_eq_some {a b : UInt64} (h : a.toNat + b.toNat < UInt64.size) :
    ∃ c, add? a b = some c ∧ c.toNat = a.toNat + b.toNat :=
  ⟨a + b, if_pos h, by rw [UInt64.toNat_add]; exact Nat.mod_eq_of_lt h⟩

theorem add?_eq_none {a b : UInt64} (h : UInt64.size ≤ a.toNat + b.toNat) : add? a b = none :=
  if_neg (Nat.not_lt.2 h)

/-- The seconds of a multiple with the seconds carried over; none if they do not fit. -/
def secs? (secs factor carried : UInt64) : Option UInt64 := (mul? secs factor).bind (add? · carried)

theorem secs?_eq_some {secs factor carried : UInt64}
    (h : secs.toNat * factor.toNat + carried.toNat < UInt64.size) :
    ∃ sum, secs? secs factor carried = some sum ∧
      sum.toNat = secs.toNat * factor.toNat + carried.toNat := by
  obtain ⟨product, hproduct, hvalue⟩ := mul?_eq_some (Nat.lt_of_le_of_lt (Nat.le_add_right _ _) h)
  rw [secs?, hproduct, Option.bind_some, ← hvalue]
  exact add?_eq_some (by rwa [hvalue])

theorem secs?_eq_none {secs factor carried : UInt64}
    (h : UInt64.size ≤ secs.toNat * factor.toNat + carried.toNat) :
    secs? secs factor carried = none := by
  by_cases hfits : secs.toNat * factor.toNat < UInt64.size
  · obtain ⟨product, hproduct, hvalue⟩ := mul?_eq_some hfits
    rw [secs?, hproduct, Option.bind_some]
    exact add?_eq_none (by rwa [hvalue])
  · rw [secs?, mul?_eq_none (Nat.not_lt.1 hfits), Option.bind_none]

/-- A span of `secs` seconds, and of the nanoseconds that do not fill a second. -/
def ofParts (secs nanos : UInt64) : Words where
  secs
  nanos := (nanos % 1000000000).toUInt32
  nanos_lt := by
    have hlt : (nanos % 1000000000).toNat < nanosPerSecond := by
      rw [UInt64.toNat_mod]
      exact Nat.mod_lt _ (by decide)
    rw [UInt64.toNat_toUInt32]
    exact Nat.lt_of_le_of_lt (Nat.mod_le _ _) hlt

theorem total_ofParts (secs nanos : UInt64) :
    (ofParts secs nanos).total = secs.toNat * nanosPerSecond + nanos.toNat % nanosPerSecond := by
  have hlt : nanos.toNat % nanosPerSecond < UInt32.size :=
    Nat.lt_trans (Nat.mod_lt _ (by decide)) (by decide : nanosPerSecond < UInt32.size)
  rw [total, ofParts, UInt64.toNat_toUInt32, UInt64.toNat_mod]
  congr 1
  exact Nat.mod_eq_of_lt hlt

/-- The multiple of a span, or the longest span if the seconds do not fit. The nanoseconds are
multiplied in a long word, and the seconds that they fill are carried over. None if the long word
overflows. -/
def times? (w : Words) (factor : UInt32) : Option Words :=
  (mul? w.nanos.toUInt64 factor.toUInt64).map fun nanos =>
    match secs? w.secs factor.toUInt64 (nanos / 1000000000) with
    | none => longest
    | some secs => ofParts secs nanos

/-- A span that is cut at the longest one, by whether its seconds fit. -/
theorem min_maxNanos (secs nanos : Nat) :
    min (secs * nanosPerSecond + nanos) maxNanos =
      if secs + nanos / nanosPerSecond < UInt64.size then
        (secs + nanos / nanosPerSecond) * nanosPerSecond + nanos % nanosPerSecond
      else maxNanos := by
  have hrest : nanos % nanosPerSecond < nanosPerSecond := Nat.mod_lt _ (by decide)
  have hcarried : secs * nanosPerSecond + nanos =
      (secs + nanos / nanosPerSecond) * nanosPerSecond + nanos % nanosPerSecond := by
    rw [Nat.add_mul, Nat.add_assoc, Nat.div_add_mod']
  rw [hcarried, maxNanos]
  by_cases hfits : secs + nanos / nanosPerSecond < UInt64.size
  · have hle : (secs + nanos / nanosPerSecond + 1) * nanosPerSecond ≤ UInt64.size * nanosPerSecond :=
      Nat.mul_le_mul_right _ hfits
    rw [Nat.succ_mul] at hle
    rw [if_pos hfits, Nat.min_eq_left (by omega)]
  · have hle : UInt64.size * nanosPerSecond ≤ (secs + nanos / nanosPerSecond) * nanosPerSecond :=
      Nat.mul_le_mul_right _ (Nat.not_lt.1 hfits)
    rw [if_neg hfits, Nat.min_eq_right (by omega)]

theorem times?_eq_some (w : Words) (factor : UInt32) :
    ∃ multiple, w.times? factor = some multiple ∧
      multiple.total = min (w.total * factor.toNat) maxNanos := by
  have hlong : w.nanos.toUInt64.toNat * factor.toUInt64.toNat < UInt64.size := by
    rw [UInt32.toNat_toUInt64, UInt32.toNat_toUInt64]
    exact Nat.mul_lt_mul'' w.nanos.toNat_lt factor.toNat_lt
  obtain ⟨nanos, hnanos, hvalue⟩ := mul?_eq_some hlong
  have hcarried : (nanos / 1000000000).toNat = nanos.toNat / nanosPerSecond := UInt64.toNat_div _ _
  have hfactor : factor.toUInt64.toNat = factor.toNat := UInt32.toNat_toUInt64 factor
  rw [UInt32.toNat_toUInt64, hfactor] at hvalue
  -- The product in seconds and nanoseconds, each multiplied on its own.
  have hproduct : w.total * factor.toNat =
      w.secs.toNat * factor.toNat * nanosPerSecond + nanos.toNat := by
    rw [total, hvalue, Nat.add_mul, Nat.mul_right_comm]
  rw [times?, hnanos, Option.map_some, hproduct, min_maxNanos]
  by_cases hfits : w.secs.toNat * factor.toNat + nanos.toNat / nanosPerSecond < UInt64.size
  · have hsecsFit : w.secs.toNat * factor.toUInt64.toNat + (nanos / 1000000000).toNat <
        UInt64.size := by
      rw [hcarried, hfactor]
      exact hfits
    obtain ⟨secs, hsecs, hsum⟩ := secs?_eq_some hsecsFit
    refine ⟨ofParts secs nanos, by rw [hsecs], ?_⟩
    rw [if_pos hfits, total_ofParts, hsum, hcarried, hfactor]
  · have hsecs : secs? w.secs factor.toUInt64 (nanos / 1000000000) = none :=
      secs?_eq_none (by rw [hcarried, hfactor]; exact Nat.not_lt.1 hfits)
    exact ⟨longest, by rw [hsecs], by rw [if_neg hfits, total_longest]⟩

/-- In words, the multiple of a span is the multiple that is meant. -/
theorem times?_words (d : Duration) (factor : UInt32) :
    d.words.times? factor = some (d.times factor.toNat).words := by
  obtain ⟨multiple, hmultiple, htotal⟩ := times?_eq_some d.words factor
  rw [hmultiple]
  refine congrArg some (ext_total ?_)
  rw [htotal, total_words, total_words]
  rfl

end Words

theorem nanos_min (a b : Duration) : (min a b).nanos = min a.nanos b.nanos := by
  show (if a.nanos ≤ b.nanos then a else b).nanos = _
  by_cases h : a.nanos ≤ b.nanos
  · rw [if_pos h, Nat.min_eq_left h]
  · rw [if_neg h, Nat.min_eq_right (by omega)]

theorem shorter_words (a b : Duration) : a.words.shorter b.words = (min a b).words :=
  Words.ext_total (by simp only [Words.total_shorter, total_words, nanos_min])

end Duration

/-! ## The delay in words -/

namespace RetryPolicy

open Duration.Words

/-- How often the first delay is doubled: one time less than there are failures, but not less than
no time and not more than 16 times. -/
def doublings (failures : UInt32) : UInt32 := min (if failures = 0 then 0 else failures - 1) 16

theorem toNat_doublings (failures : UInt32) :
    (doublings failures).toNat = min (failures.toNat - 1) 16 := by
  rw [doublings, UInt32.toNat_min]
  by_cases h : failures = 0
  · rw [if_pos h, h]
    rfl
  · have hone : 1 ≤ failures := UInt32.le_iff_toNat_le.2
      (Nat.pos_of_ne_zero fun hzero => h (UInt32.toNat_inj.1 hzero))
    rw [if_neg h, UInt32.toNat_sub_of_le _ _ hone]
    rfl

/-- The delay after a failure as a machine works it out, and none as soon as a step overflows. -/
def backoffInWords? (policy : RetryPolicy) (failures : UInt32) : Option Duration.Words := do
  let factor ← shift? 1 (doublings failures)
  let delay ← policy.initialBackoff.words.times? factor
  some (delay.shorter policy.maxBackoff.words)

/-- No step overflows, and the delay is the one that is meant. -/
theorem backoffInWords?_eq (policy : RetryPolicy) (failures : UInt32) :
    policy.backoffInWords? failures = some (policy.backoff failures).words := by
  have hdoublings := toNat_doublings failures
  have hplaces : (doublings failures).toNat ≤ 16 := by
    rw [hdoublings]
    exact Nat.min_le_right _ _
  obtain ⟨factor, hshift, hfactor⟩ := shift?_one hplaces
  rw [hdoublings] at hfactor
  simp only [backoffInWords?, hshift, times?_words, hfactor, Duration.shorter_words, backoff,
    Option.bind_eq_bind, Option.bind_some]

end RetryPolicy

end MeshPolicy
