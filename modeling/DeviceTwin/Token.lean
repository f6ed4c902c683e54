import DeviceTwin.Json.Value

/-!
# JSON tokens

A value as a list of tokens, each with its depth: the number of containers around it. A brace or
bracket has the depth of the value that it opens or closes, a name the depth of its value.
-/
namespace DeviceTwin

inductive Token where
  | beginObject
  | endObject
  | beginArray
  | endArray
  | propertyName (name : String)
  | string (s : String)
  | number (n : Json.Number)
  | bool (b : Bool)
  | null
  deriving DecidableEq, Repr

/-- A token and the number of containers around it. -/
abbrev Placed := Token × Nat

namespace Token

def isPropertyName (name : String) : Token → Bool
  | propertyName n => n = name
  | _ => false

def isString (s : String) : Token → Bool
  | string t => t = s
  | _ => false

def opens : Token → Bool
  | beginObject | beginArray => true
  | _ => false

def closes : Token → Bool
  | endObject | endArray => true
  | _ => false

end Token

mutual

/-- The tokens of a value that stands within `depth` containers. -/
def Json.Value.tokens (depth : Nat) : Json.Value → List Placed
  | .null => [(.null, depth)]
  | .bool b => [(.bool b, depth)]
  | .number n => [(.number n, depth)]
  | .string s => [(.string s, depth)]
  | .array items => (.beginArray, depth) :: Json.Value.itemTokens (depth + 1) items
      ++ [(.endArray, depth)]
  | .object members => (.beginObject, depth) :: Json.Value.memberTokens (depth + 1) members
      ++ [(.endObject, depth)]

def Json.Value.itemTokens (depth : Nat) : List Json.Value → List Placed
  | [] => []
  | v :: vs => v.tokens depth ++ Json.Value.itemTokens depth vs

def Json.Value.memberTokens (depth : Nat) : Json.Members → List Placed
  | [] => []
  | (n, v) :: ms => (.propertyName n, depth) :: v.tokens depth ++ Json.Value.memberTokens depth ms

end

end DeviceTwin
