import DeviceTwin.Decimal.Scaled
import DeviceTwin.Json.Number
import DeviceTwin.Json.Reader.Stop

/-!
# Reading JSON numbers

A number without fraction and exponent that fits is an integer. All others are doubles made from a
significand of 64 bits and an exponent of ten: digits that the significand has no room for are left
out, those before the point raise the exponent.
-/
namespace DeviceTwin.Json

def digit? (b : UInt8) : Option Nat :=
  if 0x30 ≤ b.toNat ∧ b.toNat ≤ 0x39 then some (b.toNat - 0x30) else none

def isDigit (b : UInt8) : Bool := (digit? b).isSome

def startsWithDigit (bs : Bytes) : Bool := bs.head?.any isDigit

/-- Appends digits to `sofar` as long as the value stays within `limit`. -/
def takeDigits (limit : Nat) (sofar : Nat) : Bytes → Nat × Bytes
  | [] => (sofar, [])
  | b :: bs =>
    match digit? b with
    | none => (sofar, b :: bs)
    | some d =>
      if 10 * sofar + d ≤ limit then takeDigits limit (10 * sofar + d) bs else (sofar, b :: bs)

def dropDigits (bs : Bytes) : Bytes := bs.dropWhile isDigit

def countDigits (bs : Bytes) : Nat := (bs.takeWhile isDigit).length

def maxSignificand : Nat := 18446744073709551615

/-- The greatest exponent that a text can name. -/
def maxExponent : Nat := 2147483647

/-- A significand, an exponent of ten and a sign as a double. -/
def finish (negative : Bool) (significand : Nat) (exponent : Int) (rest : Bytes) :
    Reading Number :=
  match Decimal.scaled? significand exponent with
  | some word => .ok (.ofMagnitude negative word, rest)
  | none => stopAt .numberOutOfRange rest

/-- Reads the digits of an exponent; they are added to `exponent`. -/
def readExponentDigits (negative : Bool) (significand : Nat) (exponent : Int)
    (negativeExponent : Bool) : Bytes → Reading Number
  | [] => stopAt .endInValue []
  | b :: bs =>
    if isDigit b then
      match takeDigits maxExponent 0 (b :: bs) with
      | (e, rest) =>
        if startsWithDigit rest then
          if significand ≠ 0 ∧ negativeExponent = false then stopAt .numberOutOfRange (rest.drop 1)
          else .ok (.ofMagnitude negative 0, dropDigits rest)
        else finish negative significand (if negativeExponent then exponent - e else exponent + e) rest
    else stopAt .invalidNumber bs

def readExponent (negative : Bool) (significand : Nat) (exponent : Int) : Bytes → Reading Number
  | [] => stopAt .endInValue []
  | b :: bs =>
    if b = byte '+' then readExponentDigits negative significand exponent false bs
    else if b = byte '-' then readExponentDigits negative significand exponent true bs
    else readExponentDigits negative significand exponent false (b :: bs)

def isExponentMark (b : UInt8) : Bool := b = byte 'e' || b = byte 'E'

/-- Reads the exponent, if there is one, and finishes. -/
def readScale (negative : Bool) (significand : Nat) (exponent : Int) (bs : Bytes) :
    Reading Number :=
  match bs with
  | [] => finish negative significand exponent []
  | b :: rest =>
    if isExponentMark b then readExponent negative significand exponent rest
    else finish negative significand exponent bs

/-- Reads what follows the point: at least one digit, then perhaps an exponent. -/
def readFraction (negative : Bool) (significand : Nat) (exponent : Int) (bs : Bytes) :
    Reading Number :=
  if startsWithDigit bs then
    let (s, rest) := takeDigits maxSignificand significand bs
    readScale negative s (exponent - (countDigits bs - countDigits rest : Nat)) (dropDigits rest)
  else if bs = [] then stopPast .endInValue bs
  else stopPast .invalidNumber bs

/-- An integer with its sign; minus zero and what does not fit are doubles. -/
def ofInteger (negative : Bool) (n : Nat) : Number :=
  let value : Int := if negative then -n else n
  if Number.fits value ∧ ¬(negative ∧ n = 0) then .integer value
  else .ofMagnitude negative (Binary64.nearest n 1)

/-- Reads what follows the digits before the point, of which `dropped` are not in the significand. -/
def readTail (negative : Bool) (significand dropped : Nat) (bs : Bytes) : Reading Number :=
  match bs with
  | b :: rest =>
    if b = byte '.' then readFraction negative significand dropped rest
    else if isExponentMark b then readExponent negative significand dropped rest
    else if dropped = 0 then .ok (ofInteger negative significand, bs)
    else finish negative significand dropped bs
  | [] =>
    if dropped = 0 then .ok (ofInteger negative significand, [])
    else finish negative significand dropped []

/-- Reads a number behind its sign. -/
def readUnsigned (negative : Bool) : Bytes → Reading Number
  | [] => stopAt .endInValue []
  | b :: bs =>
    if b = byte '0' then
      if startsWithDigit bs then stopPast .invalidNumber bs else readTail negative 0 0 bs
    else if isDigit b then
      let (s, rest) := takeDigits maxSignificand 0 (b :: bs)
      readTail negative s (countDigits rest) (dropDigits rest)
    else stopAt .invalidNumber bs

/-- Reads a number that begins with a minus sign or a digit. -/
def readNumber (bs : Bytes) : Reading Number :=
  match bs with
  | b :: rest => if b = byte '-' then readUnsigned true rest else readUnsigned false bs
  | [] => readUnsigned false bs

end DeviceTwin.Json
