import MeshPolicy.Proofs.Backoff.Words

/-! # How the back-off grows

The delay doubles with every failure until it meets the limit or has been doubled 16 times, and then
it stays where it is. That a span can be too long to be told makes no difference: the limit is a span
that can be told.

* `RetryPolicy.nanos_backoff`: the delay as the lesser of two numbers.
* `RetryPolicy.BacksOffWell`, `backoff_well_behaved`: how the delay goes with the failures.
-/

namespace MeshPolicy.RetryPolicy
set_option autoImplicit false

variable (policy : RetryPolicy)

theorem nanos_times (d : Duration) (factor : Nat) :
    (d.times factor).nanos = min (d.nanos * factor) maxNanos := rfl

/-- The limit is the only thing that cuts the delay. -/
theorem nanos_backoff (failures : UInt32) :
    (policy.backoff failures).nanos =
      min (policy.initialBackoff.nanos * (1 <<< min (failures.toNat - 1) 16))
        policy.maxBackoff.nanos := by
  have hlimit := policy.maxBackoff.nanos_le
  rw [backoff, Duration.nanos_min, nanos_times, Nat.min_assoc, Nat.min_eq_right hlimit]

theorem backoff_congr {failures failures' : UInt32}
    (h : min (failures.toNat - 1) 16 = min (failures'.toNat - 1) 16) :
    policy.backoff failures = policy.backoff failures' :=
  Duration.ext_nanos (by rw [nanos_backoff, nanos_backoff, h])

theorem one_shiftLeft_le {m n : Nat} (h : m ≤ n) : 1 <<< m ≤ 1 <<< n := by
  rw [Nat.one_shiftLeft, Nat.one_shiftLeft]
  exact Nat.pow_le_pow_right (by decide) h

theorem backoff_mono {failures failures' : UInt32} (h : failures ≤ failures') :
    (policy.backoff failures).nanos ≤ (policy.backoff failures').nanos := by
  have hle : failures.toNat ≤ failures'.toNat := UInt32.le_iff_toNat_le.1 h
  have hdelay : policy.initialBackoff.nanos * (1 <<< min (failures.toNat - 1) 16) ≤
      policy.initialBackoff.nanos * (1 <<< min (failures'.toNat - 1) 16) :=
    Nat.mul_le_mul_left _ (one_shiftLeft_le (by omega))
  rw [nanos_backoff, nanos_backoff]
  omega

theorem le_backoff (failures : UInt32) :
    (min policy.initialBackoff policy.maxBackoff).nanos ≤ (policy.backoff failures).nanos := by
  have hfactor : 1 ≤ 1 <<< min (failures.toNat - 1) 16 := one_shiftLeft_le (Nat.zero_le _)
  have hdelay : policy.initialBackoff.nanos ≤
      policy.initialBackoff.nanos * (1 <<< min (failures.toNat - 1) 16) :=
    Nat.le_mul_of_pos_right _ hfactor
  rw [nanos_backoff, Duration.nanos_min]
  omega

/-- One more failure doubles the delay, up to the limit. -/
theorem backoff_add_one {failures : UInt32} (hpos : 1 ≤ failures) (hle : failures ≤ 16) :
    policy.backoff (failures + 1) =
      min ((policy.backoff failures).times 2) policy.maxBackoff := by
  have hpos : 1 ≤ failures.toNat := UInt32.le_iff_toNat_le.1 hpos
  have hle : failures.toNat ≤ 16 := UInt32.le_iff_toNat_le.1 hle
  obtain ⟨n, hn⟩ : ∃ n, failures.toNat = n + 1 := ⟨failures.toNat - 1, by omega⟩
  have hnext : (failures + 1).toNat = n + 2 := by
    rw [UInt32.toNat_add, hn]
    exact Nat.mod_eq_of_lt (by show n + 1 + 1 < 2 ^ 32; omega)
  have hdouble : policy.initialBackoff.nanos * (1 <<< (n + 1)) =
      2 * (policy.initialBackoff.nanos * (1 <<< n)) := by
    rw [Nat.shiftLeft_succ, Nat.mul_left_comm]
  have hlimit := policy.maxBackoff.nanos_le
  refine Duration.ext_nanos ?_
  rw [nanos_backoff, Duration.nanos_min, nanos_times, nanos_backoff, hnext, hn,
    Nat.min_eq_left (by omega : n + 2 - 1 ≤ 16), Nat.min_eq_left (by omega : n + 1 - 1 ≤ 16),
    Nat.add_sub_cancel, show n + 2 - 1 = n + 1 from rfl, hdouble]
  omega

/-- How the delay of a policy goes with the failures. -/
structure BacksOffWell : Prop where
  /-- A machine works the delay out without a step that overflows. -/
  inWords : ∀ failures, policy.backoffInWords? failures = some (policy.backoff failures).words
  limited : ∀ failures, (policy.backoff failures).nanos ≤ policy.maxBackoff.nanos
  delayed : ∀ failures,
    (min policy.initialBackoff policy.maxBackoff).nanos ≤ (policy.backoff failures).nanos
  mono : ∀ failures failures', failures ≤ failures' →
    (policy.backoff failures).nanos ≤ (policy.backoff failures').nanos
  doubles : ∀ failures, 1 ≤ failures → failures ≤ 16 →
    policy.backoff (failures + 1) = min ((policy.backoff failures).times 2) policy.maxBackoff
  levels : ∀ failures, 17 ≤ failures → policy.backoff failures = policy.backoff 17

/-- Every policy backs off well, whatever its first delay and its limit are. -/
theorem backoff_well_behaved : policy.BacksOffWell where
  inWords := policy.backoffInWords?_eq
  limited failures := by
    rw [nanos_backoff]
    exact Nat.min_le_right _ _
  delayed := policy.le_backoff
  mono _ _ := policy.backoff_mono
  doubles _ := policy.backoff_add_one
  levels failures h := by
    have hle : 17 ≤ failures.toNat := UInt32.le_iff_toNat_le.1 h
    have hlevel : min (failures.toNat - 1) 16 = min ((17 : UInt32).toNat - 1) 16 := by
      rw [Nat.min_eq_right (by omega)]
      rfl
    exact policy.backoff_congr hlevel

/-- The default policy: 100 ms, 200 ms, 400 ms, and half a minute after many failures. -/
example : [1, 2, 3, 100].map (fun failures => (({} : RetryPolicy).backoff failures).text) =
    ["100ms", "200ms", "400ms", "30s"] := by
  decide +kernel

end MeshPolicy.RetryPolicy
