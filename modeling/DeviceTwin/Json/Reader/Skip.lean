import DeviceTwin.Json.Reader
import DeviceTwin.Text.Start

/-!
# Passing over JSON values

A value that is not wanted is only checked for its grammar. It may be nested to any depth, its numbers
may have any size, and the escapes in its strings need not pair up.
-/
namespace DeviceTwin.Json

/-- What follows a string, from behind its opening quote. -/
def skipText : Bytes → Option Bytes
  | [] => none
  | b :: rest =>
    if b = byte '"' then some rest
    else if b = byte '\\' then
      match rest with
      | [] => none
      | e :: rest =>
        if (shortEscape? e).isSome then skipText rest
        else if e = byte 'u' then
          match rest with
          | a :: b :: c :: d :: rest => if (hex4? a b c d).isSome then skipText rest else none
          | _ => none
        else none
    else if b.toNat < 0x20 then none
    else skipText rest

/-- What follows one digit and more. -/
def skipDigits (bs : Bytes) : Option Bytes :=
  if startsWithDigit bs then some (dropDigits bs) else none

def skipExponent : Bytes → Option Bytes
  | [] => some []
  | b :: rest =>
    if isExponentMark b then
      match rest with
      | [] => none
      | sign :: digits =>
        skipDigits (if sign = byte '+' || sign = byte '-' then digits else sign :: digits)
    else some (b :: rest)

/-- What follows the digits behind a point, where there is one, and an exponent. -/
def skipFraction : Bytes → Option Bytes
  | [] => some []
  | b :: rest =>
    if b = byte '.' then (skipDigits rest).bind skipExponent else skipExponent (b :: rest)

def skipNumber (bs : Bytes) : Option Bytes :=
  let digits := dropStart [byte '-'] bs
  match digits with
  | [] => none
  | b :: rest =>
    if b = byte '0' then if startsWithDigit rest then none else skipFraction rest
    else (skipDigits digits).bind skipFraction

mutual

def skipValue : (fuel : Nat) → Bytes → Option Bytes
  | 0, _ => none
  | fuel + 1, bs =>
    match skipBlanks bs with
    | [] => none
    | b :: rest =>
      if b = byte 'n' then (readWord ['u', 'l', 'l'] rest).toOption
      else if b = byte 't' then (readWord ['r', 'u', 'e'] rest).toOption
      else if b = byte 'f' then (readWord ['a', 'l', 's', 'e'] rest).toOption
      else if b = byte '"' then skipText rest
      else if startsNumber b then skipNumber (b :: rest)
      else if b = byte '[' then
        match skipBlanks rest with
        | [] => none
        | b :: more => if b = byte ']' then some more else skipItems fuel rest
      else if b = byte '{' then
        match skipBlanks rest with
        | [] => none
        | b :: more => if b = byte '}' then some more else skipMembers fuel rest
      else none
termination_by structural fuel => fuel

/-- What follows one item, more of them and the end of their array. -/
def skipItems : (fuel : Nat) → Bytes → Option Bytes
  | 0, _ => none
  | fuel + 1, bs =>
    (skipValue fuel bs).bind fun rest =>
      match skipBlanks rest with
      | [] => none
      | b :: rest =>
        if b = byte ']' then some rest
        else if b = byte ',' then skipItems fuel rest
        else none
termination_by structural fuel => fuel

/-- What follows one member, more of them and the end of their object. -/
def skipMembers : (fuel : Nat) → Bytes → Option Bytes
  | 0, _ => none
  | fuel + 1, bs =>
    (strip? [byte '"'] (skipBlanks bs)).bind fun rest =>
      (skipText rest).bind fun rest =>
        (strip? [byte ':'] (skipBlanks rest)).bind fun rest =>
          (skipValue fuel rest).bind fun rest =>
            match skipBlanks rest with
            | [] => none
            | b :: rest =>
              if b = byte '}' then some rest
              else if b = byte ',' then skipMembers fuel rest
              else none
termination_by structural fuel => fuel

end

end DeviceTwin.Json
