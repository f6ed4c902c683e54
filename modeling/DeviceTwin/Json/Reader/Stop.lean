import DeviceTwin.Json.Fault
import DeviceTwin.Text.Utf8

/-!
# Where reading stops

The reader works on the bytes that are left of a text and names places by how many of them remain.
`Stop.locate` turns such a place into a line and a column of the whole text.
-/
namespace DeviceTwin.Json

/-- A fault found where `left` bytes remain; the column is given `back` bytes before that place. -/
structure Stop where
  fault : Fault
  left : Nat
  back : Nat
  deriving DecidableEq, Repr

/-- The outcome of reading an `α` from the front of some bytes: the value and what follows it. -/
abbrev Reading (α : Type) := Except Stop (α × Bytes)

/-- Stops in front of the bytes that are left. -/
def stopAt {α : Type} (fault : Fault) (left : Bytes) : Except Stop α :=
  .error ⟨fault, left.length, 0⟩

/-- Stops behind the first of the bytes that are left, at the end if there is none. -/
def stopPast {α : Type} (fault : Fault) (left : Bytes) : Except Stop α :=
  .error ⟨fault, left.length - 1, 0⟩

def lineFeed : UInt8 := 0x0A

/-- The line and the column of the end of some bytes. -/
def place (before : Bytes) : Nat × Nat :=
  (before.count lineFeed + 1, (before.reverse.takeWhile (· ≠ lineFeed)).length)

/-- The fault with its place in the text. -/
def Stop.locate (text : Bytes) (s : Stop) : Failure :=
  let (line, column) := place (text.take (text.length - s.left))
  ⟨s.fault, line, column - s.back⟩

/-- Space, tab, line feed and carriage return. -/
def isBlank (b : UInt8) : Bool := b = 0x20 || b = 0x09 || b = 0x0A || b = 0x0D

def skipBlanks (bs : Bytes) : Bytes := bs.dropWhile isBlank

def byte (c : Char) : UInt8 := UInt8.ofNat c.toNat

/-- Reads the letters of a word, each in its turn. -/
def readWord : (word : List Char) → Bytes → Except Stop Bytes
  | [], bs => .ok bs
  | _ :: _, [] => stopAt .endInValue []
  | c :: word, b :: bs => if b = byte c then readWord word bs else stopAt .expectedWord bs

end DeviceTwin.Json
