import DeviceTwin.Decimal.Power

/-!
# Magnitudes of 64-bit floating point

A magnitude is the word of a non-negative double without its sign bit: a mantissa of 52 bits below
an exponent of 11. Words are in the order of the values they stand for, and the word behind the
greatest finite one stands for infinity. All arithmetic is exact and rounds once, to the nearest
value and to the even word in the middle.
-/
namespace DeviceTwin.Binary64

def infinity : Nat := 2047 * twoPow 52

/-- Mantissa and exponent of two of a finite word. -/
def parts (word : Nat) : Nat × Int :=
  let field : Nat := word / twoPow 52
  if field = 0 then (word, -1074) else (twoPow 52 + word % twoPow 52, (field : Int) - 1075)

/-- The value of a finite word as a fraction. -/
def ratio (word : Nat) : Nat × Nat :=
  match parts word with
  | (m, .ofNat q) => (m * twoPow q, 1)
  | (m, .negSucc q) => (m, twoPow (q + 1))

/-- The quotient rounded to the nearest number, in the middle to the even one. -/
def roundHalfEven (num den : Nat) : Nat :=
  let low := num / den
  let rest := num % den
  if 2 * rest < den ∨ (2 * rest = den ∧ low % 2 = 0) then low else low + 1

/-- The quotient divided by `2 ^ q` and rounded. -/
def roundAt (num den : Nat) : Int → Nat
  | .ofNat q => roundHalfEven num (den * twoPow q)
  | .negSucc q => roundHalfEven (num * twoPow (q + 1)) den

/-- The exponent of two of the leading bit of a positive quotient. -/
def leadingBit (num den : Nat) : Int :=
  let e : Int := (num.log2 : Int) - (den.log2 : Int)
  let reached : Bool := match e with
    | .ofNat k => den * twoPow k ≤ num
    | .negSucc k => den ≤ num * twoPow (k + 1)
  if reached then e else e - 1

/-- The word nearest to the quotient. -/
def nearest (num den : Nat) : Nat :=
  if num = 0 then 0
  else
    let q := max (-1074) (leadingBit num den - 52)
    min infinity ((q + 1074).toNat * twoPow 52 + roundAt num den q)

/-- The product of two finite words. -/
def mul (a b : Nat) : Nat :=
  let (n, d) := ratio a
  let (n', d') := ratio b
  nearest (n * n') (d * d')

/-- The quotient of two finite words, the second one not zero. -/
def div (a b : Nat) : Nat :=
  let (n, d) := ratio a
  let (n', d') := ratio b
  nearest (n * d') (d * n')

end DeviceTwin.Binary64
