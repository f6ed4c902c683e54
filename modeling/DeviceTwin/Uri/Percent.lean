import DeviceTwin.Text.Utf8

/-!
# Percent escapes

A byte that may not stand for itself in an address is written as `%` and two hexadecimal digits.
-/
namespace DeviceTwin.Percent

/-- A byte as an escape. -/
def escape (b : UInt8) : List Char :=
  ['%', (Nat.digitChar (b.toNat / 16)).toUpper, (Nat.digitChar (b.toNat % 16)).toUpper]

/-- Controls and characters outside ASCII are always escaped. -/
def isForeign (c : Char) : Bool := c.toNat < 0x20 || 0x7F ≤ c.toNat

/-- Escapes foreign characters and those that are `reserved`. -/
def encode (reserved : Char → Bool) (cs : List Char) : List Char :=
  cs.flatMap fun c =>
    if isForeign c || reserved c then (String.utf8EncodeChar c).flatMap escape else [c]

def hexDigit? (c : Char) : Option Nat :=
  if c.isDigit then some (c.toNat - '0'.toNat)
  else if 'a' ≤ c ∧ c ≤ 'f' then some (c.toNat - 'a'.toNat + 10)
  else if 'A' ≤ c ∧ c ≤ 'F' then some (c.toNat - 'A'.toNat + 10)
  else none

/-- The byte of an escape, from its two digits. -/
def unescape? (high low : Char) : Option UInt8 :=
  match hexDigit? high, hexDigit? low with
  | some x, some y => some (UInt8.ofNat (x * 16 + y))
  | _, _ => none

/-- The bytes of a text, each escape as its byte. A percent sign without two digits stands for
itself. -/
def decode : List Char → Bytes
  | '%' :: high :: low :: rest =>
    match unescape? high low with
    | some b => b :: decode rest
    | none => String.utf8EncodeChar '%' ++ decode (high :: low :: rest)
  | c :: rest => String.utf8EncodeChar c ++ decode rest
  | [] => []

end DeviceTwin.Percent
