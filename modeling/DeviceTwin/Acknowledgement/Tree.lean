import DeviceTwin.Acknowledgement.Single

/-!
# Acknowledgements as values

What an acknowledgement says, as a value instead of as a run of framing calls.

Results:
* `names_block`: the members of a block, in their order.
-/
namespace DeviceTwin.Acknowledgement

def blockMembers (code : Nat) (version : Int) (description : Option String) (v : Json.Value) :
    Json.Members :=
  [(codeKey, .number (.integer code)), (versionKey, .number (.integer version))]
  ++ (description.map fun text => (descriptionKey, Json.Value.string text)).toList
  ++ [(valueKey, v)]

/-- The block that acknowledges a property. -/
def block (code : Nat) (version : Int) (description : Option String) (v : Json.Value) :
    Json.Value :=
  .object (blockMembers code version description v)

/-- A component with these members. -/
def wrapper (members : Json.Members) : Json.Value :=
  .object ((Component.markerKey, .string Component.markerValue) :: members)

/-- Members in their component, where they have one. -/
def inComponent (component : Option String) (members : Json.Members) : Json.Members :=
  match component with
  | some name => [(name, wrapper members)]
  | none => members

/-- The members that acknowledge properties which follow each other and belong to one component. -/
def groupMembers (version : Int) (group : List Accepted) : Json.Members :=
  inComponent (group.head?.bind (·.1.component))
    (group.map fun (p, v) => (p.name, block Status.ok version (some success) v))

/-- The object that acknowledges accepted properties. -/
def acceptedValue (version : Int) (accepted : List Accepted) : Json.Value :=
  .object ((accepted.splitBy fun a b => a.1.component = b.1.component).flatMap
    (groupMembers version))

/-- The object that acknowledges one property. -/
def Single.toValue (s : Single) : Json.Value :=
  .object (inComponent s.component [(s.name, block s.code s.version s.description s.value)])

/-- The members of a block, in their order. -/
theorem names_block (code : Nat) (version : Int) (description : Option String) (v : Json.Value) :
    Json.Members.names (blockMembers code version description v)
      = [codeKey, versionKey] ++ (description.map fun _ => descriptionKey).toList ++ [valueKey] := by
  cases description <;> rfl

end DeviceTwin.Acknowledgement
