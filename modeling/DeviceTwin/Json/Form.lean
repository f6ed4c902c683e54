import DeviceTwin.Json.Reader.Skip

/-!
# Reading JSON text of a known form

A form reads a value of some type from the front of a text. Records are written as objects or, with
all fields in their order, as arrays. In an object the fields may come in any order, none of them
twice, and members with other names are passed over.
-/
namespace DeviceTwin.Json

/-- Reads an `α` from the front of a text. -/
abbrev Form (α : Type) := Bytes → Option (α × Bytes)

namespace Form

/-- Any value, with all members as written. -/
def value : Form Value := fun bs => (readValue (fuelFor bs) maxDepth bs).toOption

/-- A value that `f` takes. -/
def ofValue {α : Type} (f : Value → Option α) : Form α := fun bs =>
  (value bs).bind fun (v, rest) => (f v).map (·, rest)

/-- The text behind blanks and the byte `c`. -/
def token (c : Char) (bs : Bytes) : Option Bytes := strip? [byte c] (skipBlanks bs)

/-- A name and the colon behind it. -/
def name : Form String := fun bs =>
  (token '"' bs).bind fun rest =>
    (readText rest).toOption.bind fun (n, rest) =>
      (token ':' rest).map (n, ·)

/-- The values of fields by name. -/
abbrev Fields := Members

/-- The value of one of the members called `names`; all other members are passed over. -/
def field (names : List String) (n : String) : Form Fields := fun bs =>
  if n ∈ names then (value bs).map fun (v, rest) => ([(n, v)], rest)
  else (skipValue (fuelFor bs) bs).map ([], ·)

/-- The members up to the end of an object, at most `fuel` of them. -/
def fields (names : List String) : (fuel : Nat) → Form Fields
  | 0, _ => none
  | fuel + 1, bs =>
    (name bs).bind fun (n, rest) =>
      (field names n rest).bind fun (found, rest) =>
        match skipBlanks rest with
        | [] => none
        | b :: rest =>
          if b = byte '}' then some (found, rest)
          else if b = byte ',' then
            (fields names fuel rest).map fun (more, rest) => (found ++ more, rest)
          else none

/-- The fields of a record, those that are missing left out. -/
def record (names : List String) : Form Fields := fun bs =>
  match token '{' bs with
  | some rest =>
    match token '}' rest with
    | some rest => some ([], rest)
    | none =>
      (fields names rest.length rest).bind fun (found, rest) =>
        if (Members.names found).Nodup then some (found, rest) else none
  | none =>
    ofValue (fun
      | .array items => if items.length = names.length then some (names.zip items) else none
      | _ => none) bs

/-- A record made from its fields. -/
def ofRecord {α : Type} (names : List String) (make : Fields → Option α) : Form α := fun bs =>
  (record names bs).bind fun (found, rest) => (make found).map (·, rest)

/-- An alternative by its name: the name alone, or an object of one member. -/
def variant {α : Type} (plain : String → Option α) (tagged : String → Form α) : Form α := fun bs =>
  match token '{' bs with
  | some rest =>
    (name rest).bind fun (n, rest) =>
      (tagged n rest).bind fun (a, rest) => (token '}' rest).map (a, ·)
  | none =>
    ofValue (fun
      | .string s => plain s
      | _ => none) bs

/-- One of several constants by its name, which may also be the one name of an object with the value
null. -/
def constant {α : Type} (find : String → Option α) : Form α :=
  variant find fun n => ofValue fun
    | .null => find n
    | _ => none

/-- The whole of a text. -/
def all {α : Type} (f : Form α) (bs : Bytes) : Option α :=
  (f bs).bind fun (a, rest) => if skipBlanks rest = [] then some a else none

def required {α : Type} (f : Value → Option α) (n : String) (found : Fields) : Option α :=
  (Members.get? n found).bind f

/-- A field that may be missing or null. -/
def optional {α : Type} (f : Value → Option α) (n : String) (found : Fields) :
    Option (Option α) :=
  match Members.get? n found with
  | none | some .null => some none
  | some v => (f v).map some

def text : Value → Option String
  | .string s => some s
  | _ => none

/-- An integer from `low` to `high`. -/
def integer (low high : Int) : Value → Option Int
  | .number (.integer n) => if low ≤ n ∧ n ≤ high then some n else none
  | _ => none

end Form
end DeviceTwin.Json
