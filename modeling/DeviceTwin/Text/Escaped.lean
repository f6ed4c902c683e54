import DeviceTwin.Text.Invisible

/-!
# Text in quotes for messages

What is cited in a message stands in double quotes, with an escape for each character that would not
be seen or would be misread.
-/
namespace DeviceTwin.Escaped

/-- A character within quotes. -/
def char (c : Char) : List Char :=
  if c = '"' then ['\\', '"']
  else if c = '\\' then ['\\', '\\']
  else if c = '\x00' then ['\\', '0']
  else if c = '\t' then ['\\', 't']
  else if c = '\r' then ['\\', 'r']
  else if c = '\n' then ['\\', 'n']
  else if isInvisible c then ['\\', 'u', '{'] ++ Nat.toDigits 16 c.toNat ++ ['}']
  else [c]

def quote (s : String) : String := String.ofList ('"' :: s.toList.flatMap char ++ ['"'])

end DeviceTwin.Escaped
