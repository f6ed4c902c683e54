import DeviceTwin.Json.Reader
import DeviceTwin.Text.Escaped

/-!
# Reading an array of strings

`readNames` reads a text that has to be an array of strings. A value of another shape is named in the
fault; a number, a word or a string is read first, an array or an object is not entered.
-/
namespace DeviceTwin.Json

def Number.describe : Number → String
  | .integer n => "integer `" ++ Integer.ofInt n ++ "`"
  | .double word => "floating point `" ++ String.ofList (Number.double word).render ++ "`"

def describeText (s : String) : String := "string " ++ Escaped.quote s

/-- Stops behind a value of another shape than the one expected. -/
def misplaced {α : Type} (expected : String) : Reading String → Except Stop α
  | .ok (found, rest) => stopAt (.wrongType found expected) rest
  | .error e => .error e

/-- Stops at a value of another shape than the one expected; the bytes begin with it. -/
def readMisplaced {α : Type} (expected : String) : Bytes → Except Stop α
  | [] => stopPast .endInValue []
  | b :: rest =>
    if b = byte 'n' then misplaced expected ((readWord ['u', 'l', 'l'] rest).map ("null", ·))
    else if b = byte 't' then
      misplaced expected ((readWord ['r', 'u', 'e'] rest).map ("boolean `true`", ·))
    else if b = byte 'f' then
      misplaced expected ((readWord ['a', 'l', 's', 'e'] rest).map ("boolean `false`", ·))
    else if b = byte '"' then
      misplaced expected ((readText rest).map fun (s, r) => (describeText s, r))
    else if startsNumber b then
      misplaced expected ((readNumber (b :: rest)).map fun (n, r) => (n.describe, r))
    else if b = byte '[' then stopAt (.wrongType "sequence" expected) (b :: rest)
    else if b = byte '{' then stopAt (.wrongType "map" expected) (b :: rest)
    else stopPast .expectedValue (b :: rest)

/-- Reads one string; the bytes begin with it. -/
def readName : Bytes → Reading String
  | [] => stopPast .endInValue []
  | b :: rest => if b = byte '"' then readText rest else readMisplaced "a string" (b :: rest)

/-- Reads one string, at most `fuel - 1` that follow it, and the end of their array. -/
def readNameList : (fuel : Nat) → Bytes → Reading (List String)
  | 0, _ => stopAt .endInList []
  | fuel + 1, bs =>
    match readName bs with
    | .error e => .error e
    | .ok (name, rest) =>
      match skipBlanks rest with
      | [] => stopPast .endInList []
      | b :: rest =>
        if b = byte ']' then .ok ([name], rest)
        else if b = byte ',' then
          match skipBlanks rest with
          | [] => stopPast .endInValue []
          | b :: rest =>
            if b = byte ']' then stopPast .trailingComma (b :: rest)
            else (readNameList fuel (b :: rest)).map fun (names, r) => (name :: names, r)
        else stopPast .expectedListEnd (b :: rest)

def readNameArray (bs : Bytes) : Reading (List String) :=
  match skipBlanks bs with
  | [] => stopPast .endInValue []
  | b :: rest =>
    if b = byte '[' then
      match skipBlanks rest with
      | [] => stopPast .endInList []
      | b :: rest =>
        if b = byte ']' then .ok ([], rest) else readNameList (rest.length + 1) (b :: rest)
    else readMisplaced "a sequence" (b :: rest)

/-- Reads one array of strings and blanks around it. -/
def readNameDocument (bs : Bytes) : Except Stop (List String) :=
  match readNameArray bs with
  | .error e => .error e
  | .ok (names, rest) =>
    match skipBlanks rest with
    | [] => .ok names
    | b :: rest => stopPast .trailingCharacters (b :: rest)

def readNames (bs : Bytes) : Except Failure (List String) :=
  (readNameDocument bs).mapError (Stop.locate bs)

end DeviceTwin.Json
