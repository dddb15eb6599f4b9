/-! # Natural numbers in decimal

* `digits`: the shortest decimal writing of a number.
* `readDigits?`: the number that a nonempty row of decimal digits denotes; leading zeros are
  allowed.
-/

namespace MeshPolicy.Text
set_option autoImplicit false

def digits (n : Nat) : String := .ofList (Nat.toDigits 10 n)

def digit? (c : Char) : Option Nat :=
  if '0' ≤ c ∧ c ≤ '9' then some (c.toNat - '0'.toNat) else none

/-- Reads on with `n` as the number read so far. -/
def readOn (n : Nat) : List Char → Option Nat
  | [] => some n
  | c :: rest => (digit? c).bind fun d => readOn (10 * n + d) rest

/-- The number that a nonempty row of digits denotes. -/
def readDigits? : List Char → Option Nat
  | [] => none
  | cs => readOn 0 cs

end MeshPolicy.Text
