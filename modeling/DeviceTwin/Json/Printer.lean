import DeviceTwin.Json.Value
import DeviceTwin.Text.Utf8

/-!
# Compact JSON text

`Value.render` writes a value without blanks, members and items in their order. In strings the quote,
the backslash and the control characters below `U+0020` are escaped and nothing else is.
-/
namespace DeviceTwin.Json

def escape (c : Char) : List Char :=
  if c = '"' then ['\\', '"']
  else if c = '\\' then ['\\', '\\']
  else if 0x20 ≤ c.toNat then [c]
  else if c = '\x08' then ['\\', 'b']
  else if c = '\t' then ['\\', 't']
  else if c = '\n' then ['\\', 'n']
  else if c = '\x0c' then ['\\', 'f']
  else if c = '\r' then ['\\', 'r']
  else ['\\', 'u', '0', '0', Nat.digitChar (c.toNat / 16), Nat.digitChar (c.toNat % 16)]

def quoted (s : String) : List Char := '"' :: s.toList.flatMap escape ++ ['"']

mutual

/-- A value as text. -/
def Value.render : Value → List Char
  | .null => ['n', 'u', 'l', 'l']
  | .bool true => ['t', 'r', 'u', 'e']
  | .bool false => ['f', 'a', 'l', 's', 'e']
  | .number n => n.render
  | .string s => quoted s
  | .array items => '[' :: [','].intercalate (Value.renderItems items) ++ [']']
  | .object members => '{' :: [','].intercalate (Value.renderMembers members) ++ ['}']

def Value.renderItems : List Value → List (List Char)
  | [] => []
  | v :: vs => v.render :: Value.renderItems vs

def Value.renderMembers : Members → List (List Char)
  | [] => []
  | (n, v) :: ms => (quoted n ++ ':' :: v.render) :: Value.renderMembers ms

end

def Value.text (v : Value) : String := String.ofList v.render

def Value.bytes (v : Value) : Bytes := Utf8.encode v.render

end DeviceTwin.Json
