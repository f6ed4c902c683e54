import DeviceTwin.Json.Reader.Number
import DeviceTwin.Json.Reader.Text
import DeviceTwin.Json.Value

/-!
# Reading JSON text

`parse` reads a text as it is written, `read` brings repeated names of an object down to one member.
At most 127 containers may be open at once.

The steps of the reader are bounded by `fuel`. A byte is looked at in three of them at most, as the
start of a value and as the start of the list that it stands in, so three times the length of the
text and one more are enough.
-/
namespace DeviceTwin.Json

/-- The greatest number of open containers. -/
def maxDepth : Nat := 127

def startsNumber (b : UInt8) : Bool := b = byte '-' || isDigit b

mutual

/-- Reads a value, in which `room` more containers may be open. -/
def readValue : (fuel room : Nat) → Bytes → Reading Value
  | 0, _, _ => stopAt .endInValue []
  | fuel + 1, room, bs =>
    match skipBlanks bs with
    | [] => stopPast .endInValue []
    | b :: rest =>
      if b = byte 'n' then (readWord ['u', 'l', 'l'] rest).map (.null, ·)
      else if b = byte 't' then (readWord ['r', 'u', 'e'] rest).map (.bool true, ·)
      else if b = byte 'f' then (readWord ['a', 'l', 's', 'e'] rest).map (.bool false, ·)
      else if b = byte '"' then (readText rest).map fun (s, r) => (.string s, r)
      else if startsNumber b then (readNumber (b :: rest)).map fun (n, r) => (.number n, r)
      else if b = byte '[' then
        match room with
        | 0 => stopAt .tooDeep rest
        | room + 1 => (readFirstItem fuel room rest).map fun (vs, r) => (.array vs, r)
      else if b = byte '{' then
        match room with
        | 0 => stopAt .tooDeep rest
        | room + 1 => (readFirstMember fuel room rest).map fun (ms, r) => (.object ms, r)
      else stopPast .expectedValue (b :: rest)
termination_by structural fuel => fuel

/-- Reads the items of an array behind its opening bracket. -/
def readFirstItem : (fuel room : Nat) → Bytes → Reading (List Value)
  | 0, _, _ => stopAt .endInList []
  | fuel + 1, room, bs =>
    match skipBlanks bs with
    | [] => stopPast .endInList []
    | b :: rest => if b = byte ']' then .ok ([], rest) else readItems fuel room (b :: rest)
termination_by structural fuel => fuel

def readItems : (fuel room : Nat) → Bytes → Reading (List Value)
  | 0, _, _ => stopAt .endInList []
  | fuel + 1, room, bs =>
    match readValue fuel room bs with
    | .error e => .error e
    | .ok (v, rest) =>
      match skipBlanks rest with
      | [] => stopPast .endInList []
      | b :: rest =>
        if b = byte ']' then .ok ([v], rest)
        else if b = byte ',' then
          match skipBlanks rest with
          | [] => stopPast .endInValue []
          | b :: rest =>
            if b = byte ']' then stopPast .trailingComma (b :: rest)
            else (readItems fuel room (b :: rest)).map fun (vs, r) => (v :: vs, r)
        else stopPast .expectedListEnd (b :: rest)
termination_by structural fuel => fuel

/-- Reads the members of an object behind its opening brace. -/
def readFirstMember : (fuel room : Nat) → Bytes → Reading Members
  | 0, _, _ => stopAt .endInObject []
  | fuel + 1, room, bs =>
    match skipBlanks bs with
    | [] => stopPast .endInObject []
    | b :: rest =>
      if b = byte '}' then .ok ([], rest)
      else if b = byte '"' then readMembers fuel room rest
      else stopPast .keyNotString (b :: rest)
termination_by structural fuel => fuel

/-- Reads one member behind the opening quote of its name, and those that follow it. -/
def readMembers : (fuel room : Nat) → Bytes → Reading Members
  | 0, _, _ => stopAt .endInObject []
  | fuel + 1, room, bs =>
    match readText bs with
    | .error e => .error e
    | .ok (name, rest) =>
      match skipBlanks rest with
      | [] => stopPast .endInObject []
      | b :: rest =>
        if b = byte ':' then
          match readValue fuel room rest with
          | .error e => .error e
          | .ok (v, rest) =>
            match skipBlanks rest with
            | [] => stopPast .endInObject []
            | b :: rest =>
              if b = byte '}' then .ok ([(name, v)], rest)
              else if b = byte ',' then
                match skipBlanks rest with
                | [] => stopPast .endInValue []
                | b :: rest =>
                  if b = byte '"' then
                    (readMembers fuel room rest).map fun (ms, r) => ((name, v) :: ms, r)
                  else if b = byte '}' then stopPast .trailingComma (b :: rest)
                  else stopPast .keyNotString (b :: rest)
              else stopPast .expectedObjectEnd (b :: rest)
        else stopPast .expectedColon (b :: rest)
termination_by structural fuel => fuel

end

/-- The fuel for a text. -/
def fuelFor (bs : Bytes) : Nat := 3 * bs.length + 1

/-- Reads one value and blanks around it. -/
def readDocument (bs : Bytes) : Except Stop Value :=
  match readValue (fuelFor bs) maxDepth bs with
  | .error e => .error e
  | .ok (v, rest) =>
    match skipBlanks rest with
    | [] => .ok v
    | b :: rest => stopPast .trailingCharacters (b :: rest)

/-- The value of a text, with all members as written. -/
def parse (bs : Bytes) : Except Failure Value := (readDocument bs).mapError (Stop.locate bs)

/-- The value of a text. -/
def read (bs : Bytes) : Except Failure Value := (parse bs).map Value.merge

end DeviceTwin.Json
