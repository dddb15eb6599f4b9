import MeshPolicy.Text.Decimal

/-! # Back-off

* `Duration`: a span of time in nanoseconds, up to the greatest one that can be told.
* `Duration.text`: the span in its largest unit, with as many decimals as it needs.
* `RetryPolicy.backoff`: the delay after a failure. It doubles with every failure, up to a limit.
-/

namespace MeshPolicy
set_option autoImplicit false

def nanosPerSecond : Nat := 1000000000

def nanosPerMilli : Nat := 1000000

def nanosPerMicro : Nat := 1000

/-- The nanoseconds of the longest span: as many seconds as there are 64-bit numbers, less one
nanosecond. -/
def maxNanos : Nat := UInt64.size * nanosPerSecond - 1

structure Duration where
  nanos : Nat
  nanos_le : nanos ≤ maxNanos
  deriving DecidableEq

namespace Duration

theorem ext_nanos {a b : Duration} (h : a.nanos = b.nanos) : a = b := by
  cases a; cases b; cases h; rfl

/-- The span of `nanos` nanoseconds, or the longest one. -/
def ofNanos (nanos : Nat) : Duration := ⟨min nanos maxNanos, Nat.min_le_right _ _⟩

def ofMillis (millis : Nat) : Duration := ofNanos (millis * nanosPerMilli)

/-- The span in milliseconds; a part of a millisecond counts as a whole one. -/
def millis (d : Duration) : Nat := (d.nanos + (nanosPerMilli - 1)) / nanosPerMilli

/-- The multiple of a span, or the longest span. -/
def times (d : Duration) (factor : Nat) : Duration := ofNanos (d.nanos * factor)

instance : Min Duration := ⟨fun a b => if a.nanos ≤ b.nanos then a else b⟩

/-- `n` units of `unit` nanoseconds each, with the decimals that are not zero at the end. -/
def inUnit (nanos unit decimals : Nat) (suffix : String) : String :=
  let rest := Nat.toDigits 10 (nanos % unit)
  let padded := List.replicate (decimals - rest.length) '0' ++ rest
  let fraction := (padded.reverse.dropWhile (· == '0')).reverse
  Text.digits (nanos / unit) ++ (if fraction.isEmpty then "" else "." ++ String.ofList fraction) ++
    suffix

/-- The span in seconds, or in the largest smaller unit that it fills. -/
def text (d : Duration) : String :=
  if nanosPerSecond ≤ d.nanos then inUnit d.nanos nanosPerSecond 9 "s"
  else if nanosPerMilli ≤ d.nanos then inUnit d.nanos nanosPerMilli 6 "ms"
  else if nanosPerMicro ≤ d.nanos then inUnit d.nanos nanosPerMicro 3 "µs"
  else inUnit d.nanos 1 0 "ns"

end Duration

structure RetryPolicy where
  maxRetries : UInt32 := 3
  initialBackoff : Duration := .ofMillis 100
  maxBackoff : Duration := .ofMillis 30000
  deriving DecidableEq

def RetryPolicy.backoff (policy : RetryPolicy) (failures : UInt32) : Duration :=
  min (policy.initialBackoff.times (1 <<< min (failures.toNat - 1) 16)) policy.maxBackoff

end MeshPolicy
