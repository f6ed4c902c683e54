import DeviceTwin.Decimal.Shortest

/-!
# JSON numbers

A number is an integer or a double. Integers that a text can name lie between `-2 ^ 63` and
`2 ^ 64 - 1`; all other numbers are read as doubles.
-/
namespace DeviceTwin.Json

/-- A number, a double as its 64-bit word. -/
inductive Number where
  | integer (n : Int)
  | double (word : UInt64)
  deriving DecidableEq, Repr

namespace Number

def minSigned : Int := -9223372036854775808
def maxSigned : Int := 9223372036854775807
def maxUnsigned : Int := 18446744073709551615

/-- Whether an integer is read as one. -/
def fits (n : Int) : Bool := minSigned ≤ n && n ≤ maxUnsigned

/-- The number as an integer of 64 bits with a sign. -/
def signed? : Number → Option Int
  | integer n => if minSigned ≤ n ∧ n ≤ maxSigned then some n else none
  | double _ => none

def ofMagnitude (negative : Bool) (word : Nat) : Number :=
  double (UInt64.ofNat (if negative then twoPow 63 + word else word))

/-- Doubles are written in positional form from `1e-5` up to below `1e16`. -/
def layout : Decimal.Layout := ⟨-5, 15⟩

def render : Number → List Char
  | integer n => Integer.integer n
  | double word =>
    let magnitude := layout.text (Decimal.shortest (word.toNat % twoPow 63))
    if twoPow 63 ≤ word.toNat then '-' :: magnitude else magnitude

end Number
end DeviceTwin.Json
