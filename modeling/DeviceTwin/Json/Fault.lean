import DeviceTwin.Text.Integer

/-!
# Faults of JSON text

What can be wrong with a JSON text, and where. A place is a line, counted from one, and a column,
counted in bytes from the last line feed.
-/
namespace DeviceTwin.Json

inductive Fault where
  | endInValue
  | endInList
  | endInObject
  | endInString
  | expectedValue
  | expectedWord
  | expectedColon
  | expectedListEnd
  | expectedObjectEnd
  | trailingComma
  | trailingCharacters
  | keyNotString
  | invalidNumber
  | numberOutOfRange
  | controlCharacter
  | invalidEscape
  | loneSurrogate
  | unfinishedSurrogate
  | invalidCodePoint
  | tooDeep
  /-- A value of another shape than the one `expected`. -/
  | wrongType (found expected : String)
  deriving DecidableEq, Repr

def Fault.message : Fault → String
  | endInValue => "EOF while parsing a value"
  | endInList => "EOF while parsing a list"
  | endInObject => "EOF while parsing an object"
  | endInString => "EOF while parsing a string"
  | expectedValue => "expected value"
  | expectedWord => "expected ident"
  | expectedColon => "expected `:`"
  | expectedListEnd => "expected `,` or `]`"
  | expectedObjectEnd => "expected `,` or `\x7d`"
  | trailingComma => "trailing comma"
  | trailingCharacters => "trailing characters"
  | keyNotString => "key must be a string"
  | invalidNumber => "invalid number"
  | numberOutOfRange => "number out of range"
  | controlCharacter => "control character (\\u0000-\\u001F) found while parsing a string"
  | invalidEscape => "invalid escape"
  | loneSurrogate => "lone leading surrogate in hex escape"
  | unfinishedSurrogate => "unexpected end of hex escape"
  | invalidCodePoint => "invalid unicode code point"
  | tooDeep => "recursion limit exceeded"
  | wrongType found expected => "invalid type: " ++ found ++ ", expected " ++ expected

structure Failure where
  fault : Fault
  line : Nat
  column : Nat
  deriving DecidableEq, Repr

def Failure.message (f : Failure) : String :=
  f.fault.message ++ " at line " ++ Integer.ofNat f.line ++ " column " ++ Integer.ofNat f.column

end DeviceTwin.Json
