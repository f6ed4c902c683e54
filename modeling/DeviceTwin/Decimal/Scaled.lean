import DeviceTwin.Decimal.Binary64

/-!
# Decimals as 64-bit magnitudes

A decimal is read as a product or quotient of two words, its significand and a power of ten, each of
them rounded before the operation and the result once more after it. The outcome may thus differ in
the last bit from the word nearest to the decimal.
-/
namespace DeviceTwin.Decimal

/-- The greatest power of ten that is finite as a word. -/
def maxPower : Nat := 308

def power (k : Nat) : Nat := Binary64.nearest (tenPow k) 1

/-- Divides by `10 ^ k`, in steps of the greatest power. -/
def scaleDown (word k : Nat) : Nat :=
  if k ≤ maxPower then Binary64.div word (power k)
  else if word = 0 then 0
  else scaleDown (Binary64.div word (power maxPower)) (k - maxPower)
termination_by k
decreasing_by simp only [maxPower] at *; omega

/-- The word of `significand * 10 ^ exponent`, or nothing where that is not finite. -/
def scaled? (significand : Nat) : (exponent : Int) → Option Nat
  | .ofNat k =>
    let word := Binary64.nearest significand 1
    if k ≤ maxPower then
      let product := Binary64.mul word (power k)
      if product = Binary64.infinity then none else some product
    else if word = 0 then some 0 else none
  | .negSucc k => some (scaleDown (Binary64.nearest significand 1) (k + 1))

end DeviceTwin.Decimal
